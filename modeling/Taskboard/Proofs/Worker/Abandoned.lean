import Taskboard.Proofs.Worker.Board
import Taskboard.Proofs.Worker.Pass

/-!
# Tasks that a pass leaves in progress

When a pass is over, however it ended, a task that was pending before is pending or completed in memory, whether
saves succeeded or not, with two exceptions. If the claim of the task was not saved, the claimed task stays in
memory, as every change does that is not saved; the pass goes on without it, and nobody works on it. If the
handler was cancelled over the task, the pass ends there and does not set the status again.
-/

namespace Taskboard.Worker

open Happening

variable {Finding : Type}

/-- Whether something that happens is a claim of a task that is not saved. -/
def losesClaim (key : Text) : Happening Task (HandlerEnd × Finding) → Bool
  | replied ⟨.claim taskId _, .error failure⟩ => taskId = key && failure.isFailedSave
  | _ => false

/-- Whether it is that a task is handled. -/
def handles (key : Text) : Happening Task (HandlerEnd × Finding) → Bool
  | reported task _ => task.id = key
  | _ => false

/-- Whether it is that the handler is cancelled over a task. -/
def cancels (key : Text) : Happening Task (HandlerEnd × Finding) → Bool
  | reported task (.cancelled, _) => task.id = key
  | _ => false

variable {owner key : Text} {list after : TaskList} {happenings : Chronicle Finding}
  {result : Except Interruption (Tally Finding)} {happening : Happening Task (HandlerEnd × Finding)}

/-- What is about a task happens exactly if it happens among all that is about the task. -/
theorem any_about {is : Happening Task (HandlerEnd × Finding) → Bool}
    (own : ∀ happening, is happening = true → taskOf? happening = some key) :
    (about key happenings).any is = happenings.any is := by
  rw [about, List.any_filter]
  refine congrArg happenings.any (funext fun happening => ?_)
  cases holds : is happening with
  | false => exact Bool.and_false _
  | true => rw [own happening holds, decide_eq_true rfl, Bool.and_self]

/-- How a pending candidate stands once the worker has met it. -/
theorem Encounter.stands (encounter : Encounter owner key list happenings result after)
    (named : list.Named) (pending : list.Stands key .pending) :
    (happenings.any (losesClaim key) = true →
      (∃ task, after.find? key = some task ∧ task.status = .inProgress ∧ task.owner = some owner) ∧
        happenings.any (handles key) = false) ∧
    (happenings.any (losesClaim key) = false → happenings.any (cancels key) = false →
      after.Stands key .pending ∨ after.Stands key .completed) := by
  have held (task : Task) (status : Status) (second : Int) :
      (list.put key (task.heldBy owner status second)).find? key = some (task.heldBy owner status second) := by
    rw [TaskList.find?_put, if_pos rfl]
  cases encounter with
  | refused failure refusal closed =>
    have kept : failure.isFailedSave = false := by
      cases failure with
      | unkept how => cases refusal
      | unstorable what => cases refusal
      | _ => rfl
    have none : losesClaim key
        (replied ⟨.claim key owner, .error failure⟩ : Happening Task (HandlerEnd × Finding)) = false := by
      rw [losesClaim, kept, Bool.and_false]
    refine ⟨fun lost => ?_, fun _ _ => .inl pending⟩
    simp only [List.any_cons, none, List.any_nil, Bool.or_false] at lost
    cases lost
  | @unsaved task second failure claimable failed expected =>
    have lost : losesClaim key
        (replied ⟨.claim key owner, .error failure⟩ : Happening Task (HandlerEnd × Finding)) = true := by
      rw [losesClaim, failed, decide_eq_true rfl, Bool.and_self]
    refine ⟨fun _ => ⟨⟨_, held task .inProgress second, rfl, rfl⟩, rfl⟩, fun kept => ?_⟩
    simp only [List.any_cons, lost, Bool.true_or] at kept
    cases kept
  | @unstored task second what claimable =>
    have lost : losesClaim key
        (replied ⟨.claim key owner, .error (.unstorable what)⟩ : Happening Task (HandlerEnd × Finding)) = true :=
      (Bool.and_true _).trans (decide_eq_true rfl)
    refine ⟨fun _ => ⟨⟨_, held task .inProgress second, rfl, rfl⟩, rfl⟩, fun kept => ?_⟩
    simp only [List.any_cons, lost, Bool.true_or] at kept
    cases kept
  | @cancelled task second finding claimable =>
    have own : task.id = key := named.id_eq claimable.1
    have stops : cancels key
        (reported (task.heldBy owner .inProgress second) (HandlerEnd.cancelled, finding)) = true :=
      decide_eq_true own
    refine ⟨nofun, fun _ goesOn => ?_⟩
    simp only [List.any_cons, stops, Bool.true_or, Bool.or_true] at goesOn
    cases goesOn
  | @settled task second second' finding handlerEnd status answer claimable settles saved =>
    refine ⟨nofun, fun _ _ => ?_⟩
    have stored := held task status second'
    cases handlerEnd with
    | cancelled => cases settles
    | raised =>
      cases settles
      exact .inl ⟨_, stored, rfl⟩
    | returned =>
      cases settles
      exact .inr ⟨_, stored, rfl⟩
  | @unsettled task second second' finding handlerEnd status what claimable settles =>
    refine ⟨nofun, fun _ _ => ?_⟩
    have stored := held task status second'
    cases handlerEnd with
    | cancelled => cases settles
    | raised =>
      cases settles
      exact .inl ⟨_, stored, rfl⟩
    | returned =>
      cases settles
      exact .inr ⟨_, stored, rfl⟩

/-- A list with one pending task. -/
def single : TaskList := TaskList.empty.grown "s" "" 5

section

variable (handlerEnd : HandlerEnd) (breakdown : Option Disk.Breakdown)

/-- A desk with that list where the pending tasks were listed. -/
def listing : Workspace := ((offering single breakdown).perform 0 "l" (.list (some .pending))).2

/-- An attempt at the one task. -/
def attempting : Effort Task (HandlerEnd × Unit) (Tally Unit) :=
  (ending handlerEnd).handingOut.attemptAll [.fresh "1" "s" "" 5]

/-- What happens in a pass over the list. -/
def course : Chronicle Unit :=
  Script.witnessed (handling handlerEnd) (ending handlerEnd).handingOut.pass.run (offering single breakdown)

end

end Taskboard.Worker
