import Taskboard.Text.Basic

/-!
# Line ends

Texts read from files may end their lines with a line feed, a return, or a return and a line feed. All
three are read as one line feed.
-/

namespace Taskboard.Text

/-- Reads on with the characters before in reverse; `returned` says that the last one was a return. -/
def unifyLineEndsFrom (returned : Bool) (done : List CodePoint) : List CodePoint → List CodePoint
  | [] => done.reverse
  | c :: rest =>
    if c = '\r' then unifyLineEndsFrom true ('\n' :: done) rest
    else if c = '\n' && returned then unifyLineEndsFrom false done rest
    else unifyLineEndsFrom false (c :: done) rest

/-- A text with every line end written as one line feed. -/
def unifyLineEnds (text : List CodePoint) : List CodePoint := unifyLineEndsFrom false [] text

theorem unifyLineEndsFrom_eq (text : List CodePoint) (h : .char '\r' ∉ text) (done : List CodePoint) :
    unifyLineEndsFrom false done text = done.reverse ++ text := by
  induction text generalizing done with
  | nil => simp [unifyLineEndsFrom]
  | cons c rest ih =>
    have hc : c ≠ '\r' := fun e => h (by simp [e])
    rw [unifyLineEndsFrom, if_neg hc, if_neg (by simp), ih (fun e => h (by simp [e]))]
    simp

/-- A text without returns stays as it is. -/
theorem unifyLineEnds_eq {text : List CodePoint} (h : .char '\r' ∉ text) : unifyLineEnds text = text := by
  simp [unifyLineEnds, unifyLineEndsFrom_eq text h]

end Taskboard.Text
