import Mathlib.Data.List.Nodup
import Taskboard.Proofs.Worker.Board
import Taskboard.Proofs.Worker.Protocol

/-!
# Who has what in hand

A ledger compares where the workers of a crew stand with the list they share: the tasks in hand are in
progress and all different, and the tasks that were set to completed are completed and counted once. It stays
right when a worker takes a pending task in hand, sets the status of the one it has, keeps what it has, or
returns from its pass, as long as every other task that is not pending stays where it stands.
-/

namespace Taskboard

variable {Job Report Finding : Type}

namespace Crew

/-- Where a worker stands agrees with the list and with what passes have returned. -/
structure Booked (crew : Crew Job Report Finding) (workspace : Workspace) (returned : List (List Text))
    (standing : Standing) : Prop where
  /-- The task in hand is in progress. -/
  held : ∀ task, standing.phase.task? = some task → crew.Stands workspace task.id .inProgress
  /-- The tasks that were counted are completed. -/
  counted : ∀ key ∈ returned.flatten ++ standing.finished, crew.Stands workspace key .completed
  /-- None was counted twice. -/
  once : (returned.flatten ++ standing.finished).Nodup

end Crew

/-- Two workers do not have the same task in hand and have completed different tasks. -/
structure Standing.Apart (first second : Standing) : Prop where
  /-- Different tasks are in hand. -/
  hands : ∀ task another, first.phase.task? = some task → second.phase.task? = some another →
    task.id ≠ another.id
  /-- Different tasks were completed. -/
  finished : first.finished.Disjoint second.finished

/-- It does not matter which one is named first. -/
theorem Standing.Apart.symm {first second : Standing} (apart : first.Apart second) :
    second.Apart first :=
  ⟨fun task another inHand inHand' => (apart.hands another task inHand' inHand).symm,
    fun _ mem mem' => apart.finished mem' mem⟩

/-- A worker at the start of a pass is in nobody's way. -/
theorem Standing.Apart.fresh (other : Standing) : Standing.fresh.Apart other :=
  ⟨fun _ _ inHand => (nomatch inHand), List.disjoint_nil_left _⟩

namespace Crew

/-- Where all workers stand agrees with the list, with what passes have returned, and among them. -/
structure Ledger (crew : Crew Job Report Finding) (workspace : Workspace) (returned : List (List Text))
    (standings : Nat → Standing) : Prop where
  /-- Each worker's standing agrees with the list. -/
  booked : ∀ number, crew.Booked workspace returned (standings number)
  /-- Two workers are not in each other's way. -/
  apart : ∀ number other, number ≠ other → (standings number).Apart (standings other)

namespace Ledger

variable {crew : Crew Job Report Finding} {workspace after : Workspace} {returned : List (List Text)}
  {standings : Nat → Standing} {number : Nat} {standing : Standing}

/-- A task that is completed is in nobody's hand. -/
theorem ne_of_completed (ledger : crew.Ledger workspace returned standings) {key : Text} {task : Task}
    (completed : crew.Stands workspace key .completed)
    (inHand : (standings number).phase.task? = some task) : task.id ≠ key := by
  rintro rfl
  have same := completed.unique ((ledger.booked number).held task inHand)
  cases same

/-- Where one worker stands may change if that agrees with the list and with all others, and with the list
nothing happens but to the task that the worker had in hand. -/
theorem update (ledger : crew.Ledger workspace returned standings)
    (stays : ∀ key status, status ≠ .pending →
      (∀ task, (standings number).phase.task? = some task → task.id ≠ key) →
      crew.Stands workspace key status → crew.Stands after key status)
    (booked : crew.Booked after returned standing)
    (apart : ∀ other, other ≠ number → standing.Apart (standings other)) :
    crew.Ledger after returned (Function.update standings number standing) := by
  have others (other : Nat) (ne : other ≠ number) : crew.Booked after returned (standings other) := by
    have before := ledger.booked other
    refine ⟨fun task inHand => ?_, fun key mem => ?_, before.once⟩
    · refine stays task.id .inProgress (by decide) (fun mine inHand' => ?_) (before.held task inHand)
      exact (ledger.apart number other (Ne.symm ne)).hands mine task inHand' inHand
    · have completed := before.counted key mem
      exact stays key .completed (by decide) (fun _ inHand => ledger.ne_of_completed completed inHand)
        completed
  constructor
  · intro other
    by_cases same : other = number
    · subst same
      rwa [Function.update_self]
    · rw [Function.update_of_ne same]
      exact others other same
  · intro first second ne
    by_cases same : first = number
    · subst same
      rw [Function.update_self, Function.update_of_ne (Ne.symm ne)]
      exact apart second (Ne.symm ne)
    · rw [Function.update_of_ne same]
      by_cases same' : second = number
      · subst same'
        rw [Function.update_self]
        exact (apart first same).symm
      · rw [Function.update_of_ne same']
        exact ledger.apart first second ne

/-- A worker keeps the task that it has in hand, and what it has completed, while every task that is not
pending stays where it stands. -/
theorem keep (ledger : crew.Ledger workspace returned standings)
    (stays : ∀ key status, status ≠ .pending → crew.Stands workspace key status →
      crew.Stands after key status)
    (inHand : standing.phase.task? = (standings number).phase.task?)
    (finished : standing.finished = (standings number).finished) :
    crew.Ledger after returned (Function.update standings number standing) := by
  have before := ledger.booked number
  refine ledger.update (fun key status ne _ => stays key status ne) ⟨?_, ?_, ?_⟩ fun other ne => ⟨?_, ?_⟩
  · rw [inHand]
    exact fun task mine => stays task.id .inProgress (by decide) (before.held task mine)
  · rw [finished]
    exact fun key mem => stays key .completed (by decide) (before.counted key mem)
  · rw [finished]
    exact before.once
  · rw [inHand]
    exact (ledger.apart number other (Ne.symm ne)).hands
  · rw [finished]
    exact (ledger.apart number other (Ne.symm ne)).finished

/-- All workers keep what they have while every task that is not pending stays where it stands. -/
theorem stay (ledger : crew.Ledger workspace returned standings)
    (stays : ∀ key status, status ≠ .pending → crew.Stands workspace key status →
      crew.Stands after key status) : crew.Ledger after returned standings := by
  have kept : crew.Ledger after returned (Function.update standings 0 (standings 0)) :=
    ledger.keep stays rfl rfl
  rwa [Function.update_eq_self] at kept

/-- A worker takes a task in hand that was pending and is in progress now. -/
theorem take (ledger : crew.Ledger workspace returned standings) {task : Task}
    (stays : ∀ key status, status ≠ .pending → crew.Stands workspace key status →
      crew.Stands after key status)
    (untaken : ¬ crew.Stands workspace task.id .inProgress)
    (taken : crew.Stands after task.id .inProgress) :
    crew.Ledger after returned
      (Function.update standings number ⟨.holding task, (standings number).finished⟩) := by
  have before := ledger.booked number
  refine ledger.update (fun key status ne _ => stays key status ne) ⟨?_, ?_, before.once⟩
    fun other ne => ⟨?_, (ledger.apart number other (Ne.symm ne)).finished⟩
  · intro _ inHand
    cases inHand
    exact taken
  · exact fun key mem => stays key .completed (by decide) (before.counted key mem)
  · intro _ another mine inHand same
    cases mine
    have busy := (ledger.booked other).held another inHand
    rw [← same] at busy
    exact untaken busy

/-- A worker sets the status of the task that it has in hand, and counts it if it is completed. -/
theorem settle (ledger : crew.Ledger workspace returned standings) {task : Task}
    (inHand : (standings number).phase.task? = some task)
    (stays : ∀ key status, task.id ≠ key → crew.Stands workspace key status →
      crew.Stands after key status) {finished : List Text}
    (counts : finished = (standings number).finished ∨
      finished = (standings number).finished ++ [task.id] ∧ crew.Stands after task.id .completed) :
    crew.Ledger after returned (Function.update standings number ⟨.free, finished⟩) := by
  have uncounted (other : Nat) : task.id ∉ returned.flatten ++ (standings other).finished := fun mem =>
    ledger.ne_of_completed ((ledger.booked other).counted task.id mem) inHand rfl
  have before := ledger.booked number
  have completed (key : Text) (mem : key ∈ returned.flatten ++ (standings number).finished) :
      crew.Stands after key .completed := by
    refine stays key .completed (fun same => ?_) (before.counted key mem)
    rw [← same] at mem
    exact uncounted number mem
  refine ledger.update (fun key status _ mine => stays key status (mine task inHand))
    ⟨fun _ mine => (nomatch mine), ?_, ?_⟩ fun other ne => ⟨fun _ _ mine => (nomatch mine), ?_⟩
  · rcases counts with rfl | ⟨rfl, done⟩
    · exact completed
    · intro key mem
      rw [← List.append_assoc, List.mem_append, List.mem_singleton] at mem
      rcases mem with mem | rfl
      · exact completed key mem
      · exact done
  · rcases counts with rfl | ⟨rfl, done⟩
    · exact before.once
    · rw [← List.append_assoc, ← List.concat_eq_append]
      exact before.once.concat (uncounted number)
  · have apart := (ledger.apart number other (Ne.symm ne)).finished
    rcases counts with rfl | ⟨rfl, done⟩
    · exact apart
    · refine List.disjoint_append_left.mpr ⟨apart, ?_⟩
      rw [List.singleton_disjoint]
      exact fun mem => uncounted other (List.mem_append_right _ mem)

/-- A pass that is interrupted leaves nothing in hand and returns nothing. -/
theorem drop (ledger : crew.Ledger workspace returned standings) (number : Nat) :
    crew.Ledger workspace returned (Function.update standings number .fresh) := by
  have before := ledger.booked number
  have fewer : (returned.flatten ++ Standing.fresh.finished).Sublist
      (returned.flatten ++ (standings number).finished) :=
    (List.nil_sublist _).append_left _
  refine ledger.update (fun _ _ _ _ stands => stands) ⟨fun _ inHand => (nomatch inHand), ?_, ?_⟩
    fun other _ => .fresh (standings other)
  · exact fun key mem => before.counted key (fewer.subset mem)
  · exact before.once.sublist fewer

/-- A pass that ends returns what its worker has completed. -/
theorem handIn (ledger : crew.Ledger workspace returned standings) (number : Nat) :
    crew.Ledger workspace (returned ++ [(standings number).finished])
      (Function.update standings number .fresh) := by
  have before := ledger.booked number
  have all : (returned ++ [(standings number).finished]).flatten =
      returned.flatten ++ (standings number).finished := by
    rw [List.flatten_append, List.flatten_singleton]
  refine ⟨fun other => ?_, (ledger.drop number).apart⟩
  by_cases same : other = number
  · subst same
    rw [Function.update_self]
    refine ⟨fun _ inHand => (nomatch inHand), ?_, ?_⟩
    · rw [all, Standing.fresh, List.append_nil]
      exact before.counted
    · rw [all, Standing.fresh, List.append_nil]
      exact before.once
  · rw [Function.update_of_ne same]
    have theirs := ledger.booked other
    refine ⟨theirs.held, ?_, ?_⟩
    · intro key mem
      rw [all, List.mem_append] at mem
      rcases mem with mem | mem
      · exact before.counted key mem
      · exact theirs.counted key (List.mem_append_right _ mem)
    · rw [all, List.nodup_append']
      have mine := List.disjoint_of_nodup_append theirs.once
      refine ⟨before.once, theirs.once.of_append_right, ?_⟩
      exact List.disjoint_append_left.mpr ⟨mine, (ledger.apart number other (Ne.symm same)).finished⟩

end Ledger

end Crew

end Taskboard
