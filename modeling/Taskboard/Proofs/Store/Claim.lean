import Taskboard.Proofs.Store.Run

/-!
# A task is claimed once

A task that was claimed is found and is not pending, in memory and in the file. Only an update that sets it
back to pending ends that: not a failed save, which leaves the file as it was, not a restart, which reads
the file again, and not a new task, which takes another key.
-/

namespace Taskboard

namespace TaskList

/-- The task under a key is there and is not pending. -/
def Taken (taskId : Text) (list : TaskList) : Prop :=
  ∃ task, list.find? taskId = some task ∧ task.status ≠ .pending

end TaskList

namespace Event

/-- Whether an event is an update that sets a task back to pending. -/
def releases (listId taskId : Text) : Event → Prop
  | .call _ other (.update key change) =>
    other = listId ∧ key = taskId ∧ change.status = some .pending
  | _ => False

end Event

namespace Site

/-- Whether an event is a claim of a task that returns the task. -/
def winsClaim (site : Site) (listId taskId : Text) : Event → Bool
  | .call moment other (.claim key owner) =>
    other = listId && key = taskId && (site.outcome moment other (.claim key owner)).result.isOk
  | _ => false

/-- How many claims of a task return the task in a run. -/
def claimsWon (listId taskId : Text) (site : Site) : List Event → Nat
  | [] => 0
  | event :: rest =>
    (if site.winsClaim listId taskId event then 1 else 0) +
      claimsWon listId taskId (site.advance event) rest

end Site

namespace TaskList

variable {list after : TaskList} {now : Except QuantityFault Int} {taskId owner : Text}

/-- The time of a change is not a change of status. -/
theorem status_touched (task : Task) : (task.touched now).status = task.status := by
  cases now <;> rfl

/-- A claimed task is taken. -/
theorem taken_of_claimed (h : Becomes list now (.claim taskId owner) after) : after.Taken taskId := by
  cases h with
  | @claimed _ _ task found pending free =>
    refine ⟨(task.claimedBy owner).touched now, ?_, ?_⟩
    · rw [find?_put, if_pos rfl]
    · rw [status_touched]
      exact nofun

/-- A taken task is not claimed. -/
theorem Taken.not_claimed (h : list.Taken taskId) : ¬ Becomes list now (.claim taskId owner) after := by
  obtain ⟨task, found, busy⟩ := h
  intro becomes
  cases becomes with
  | claimed found' pending free =>
    cases found.symm.trans found'
    exact busy pending

/-- Putting a task that is not pending under a key leaves every taken task taken. -/
theorem Taken.put (h : list.Taken taskId) (key : Text) (task : Task)
    (busy : key = taskId → task.status ≠ .pending) : (list.put key task).Taken taskId := by
  obtain ⟨old, found, oldBusy⟩ := h
  by_cases same : taskId = key
  · exact ⟨task, by rw [find?_put, if_pos same], busy same.symm⟩
  · exact ⟨old, by rw [find?_put, if_neg same, found], oldBusy⟩

/-- Only an update back to pending frees a taken task. -/
theorem Taken.preserved {moment : Moment} {listId other : Text} {operation : Operation}
    (kept : ¬ (Event.call moment other operation).releases listId taskId) :
    (Event.call moment other operation).preserves listId (Taken taskId) := by
  rintro rfl list now after ahead taken becomes
  have ⟨old, found, busy⟩ := taken
  cases becomes with
  | @created subject description second shown short =>
    exact ⟨old, ahead.find?_grown short found subject description second, busy⟩
  | @updated key change task found' =>
    refine taken.put key _ fun same => ?_
    subst same
    cases found.symm.trans found'
    rw [status_touched, Task.apply]
    cases status : change.status with
    | none => exact busy
    | some status' =>
      rintro rfl
      exact kept ⟨rfl, rfl, status⟩
  | @claimed key owner task found' pending free =>
    refine taken.put key _ fun same => ?_
    rw [status_touched]
    exact nofun

end TaskList

namespace Site

variable {site : Site} {listId taskId : Text} {path : Path} {event : Event} {events : List Event}

/-- An event that does not free a task preserves that it is taken. -/
theorem preserves_taken (kept : ¬ event.releases listId taskId) :
    event.preserves listId (TaskList.Taken taskId) := by
  cases event with
  | call moment other operation => exact TaskList.Taken.preserved kept
  | restart => trivial
  | foreign change => trivial

/-- A claim that returns the task is a call that is answered. -/
theorem answered_of_winsClaim (won : site.winsClaim listId taskId event = true) :
    ∃ moment owner answer, event = .call moment listId (.claim taskId owner) ∧
      (site.outcome moment listId (.claim taskId owner)).result = .ok answer := by
  cases event with
  | restart => cases won
  | foreign change => cases won
  | call moment other operation =>
    cases operation with
    | claim key owner =>
      simp only [winsClaim, Bool.and_eq_true, decide_eq_true_eq] at won
      obtain ⟨⟨rfl, rfl⟩, ok⟩ := won
      cases result : (site.outcome moment other (.claim key owner)).result with
      | error failure =>
        rw [result] at ok
        cases ok
      | ok answer => exact ⟨moment, owner, answer, rfl, result⟩
    | _ => cases won

/-- A claim that returns the task leaves it taken, in memory and in the file. -/
theorem keeps_of_winsClaim (ahead : site.store.Ahead) (won : site.winsClaim listId taskId event = true) :
    ∃ path, (site.advance event).Keeps listId path (TaskList.Taken taskId) := by
  obtain ⟨moment, owner, answer, rfl, result⟩ := answered_of_winsClaim won
  have course := site.course moment listId (.claim taskId owner)
  obtain ⟨list, after, opened, changed⟩ := course.changed_of_ok rfl result
  refine keeps_of_answered ahead rfl result fun list' held => ?_
  rw [course.held opened, changed] at held
  cases held
  exact TaskList.taken_of_claimed (Store.Course.becomes_of_changed changed)

/-- No claim of a task that is taken returns the task. -/
theorem winsClaim_of_keeps (h : site.Keeps listId path (TaskList.Taken taskId)) (event : Event) :
    site.winsClaim listId taskId event = false := by
  rw [← Bool.not_eq_true]
  intro won
  obtain ⟨moment, owner, answer, rfl, result⟩ := answered_of_winsClaim won
  have course := site.course moment listId (.claim taskId owner)
  obtain ⟨list, after, opened, changed⟩ := course.changed_of_ok rfl result
  exact (h.opens opened).not_claimed (Store.Course.becomes_of_changed changed)

/-- While a task is not freed, no claim of it returns the task once it is taken. -/
theorem claimsWon_of_keeps (h : site.Keeps listId path (TaskList.Taken taskId)) (ahead : site.store.Ahead)
    (kept : ∀ event ∈ events, ¬ event.releases listId taskId)
    (alone : ∀ event ∈ events, event.sparesFile path) :
    site.claimsWon listId taskId events = 0 := by
  induction events generalizing site with
  | nil => rfl
  | cons event events ih =>
    have stays := h.advance ahead (preserves_taken (kept event List.mem_cons_self))
      (alone event List.mem_cons_self)
    have rest := ih stays (ahead_advance ahead event)
      (fun event mem => kept event (List.mem_cons_of_mem _ mem))
      fun event mem => alone event (List.mem_cons_of_mem _ mem)
    rw [claimsWon, winsClaim_of_keeps h event, rest]
    rfl

/-- In a run in which a task is not freed, at most one claim of it returns the task. -/
theorem claimsWon_le_one (ahead : site.store.Ahead) (alone : site.undisturbed listId events)
    (kept : ∀ event ∈ events, ¬ event.releases listId taskId) :
    site.claimsWon listId taskId events ≤ 1 := by
  induction events generalizing site with
  | nil => exact Nat.zero_le 1
  | cons event events ih =>
    have kept' : ∀ event ∈ events, ¬ event.releases listId taskId :=
      fun event mem => kept event (List.mem_cons_of_mem _ mem)
    rw [claimsWon]
    cases won : site.winsClaim listId taskId event with
    | false =>
      have rest := ih (ahead_advance ahead event) alone.tail kept'
      simpa using rest
    | true =>
      -- The first claim that returns the task leaves it taken, so no later one does.
      obtain ⟨path, keeps⟩ := keeps_of_winsClaim ahead won
      have rest := claimsWon_of_keeps keeps (ahead_advance ahead event) kept'
        (alone.tail path keeps.named)
      simp only [if_true, rest, Nat.add_zero, Nat.le_refl]

/-- Between two claims of a task that both return the task, an update has set it back to pending: in every
run of a new store, whatever was done before, with saves that fail anywhere and with restarts, if nobody
else touches the file of the list in between. So while no update does that, at most one claim returns the
task. -/
theorem claim_exclusive (dataFolder : Path) (disk : Disk) (before : List Event)
    (listId taskId : Text) (spare : Nat) :
    (∀ first between second, (opened dataFolder disk spare).undisturbed listId between →
      ((opened dataFolder disk spare).run before).winsClaim listId taskId first = true →
      ((opened dataFolder disk spare).run (before ++ first :: between)).winsClaim listId taskId second = true →
      ∃ event ∈ between, event.releases listId taskId) ∧
    ∀ stretch, (opened dataFolder disk spare).undisturbed listId stretch →
      (∀ event ∈ stretch, ¬ event.releases listId taskId) →
      ((opened dataFolder disk spare).run before).claimsWon listId taskId stretch ≤ 1 := by
  have ahead := ahead_opened dataFolder disk spare before
  constructor
  · intro first between second alone won wonAgain
    obtain ⟨path, keeps⟩ := keeps_of_winsClaim ahead won
    have named : (opened dataFolder disk spare).store.filePath listId = .ok path := by
      rw [← keeps.named, Store.filePath, Store.filePath, folder_advance, folder_run]
    by_cases kept : ∃ event ∈ between, event.releases listId taskId
    · exact kept
    · have stays := keeps.run (ahead_advance ahead first)
        (fun event mem => preserves_taken fun frees => kept ⟨event, mem, frees⟩)
        (alone path named)
      rw [run_append] at wonAgain
      have lost := winsClaim_of_keeps stays second
      cases wonAgain.symm.trans lost
  · intro stretch alone kept
    exact claimsWon_le_one ahead (alone.run before) kept

/-- Across a restart, two claims of a task that was set back in between both return it. -/
theorem claim_exclusive_released :
    let start := opened ⟨.here, ["d"]⟩ .empty 0
    let before := [Event.call (.calm 5) "l" (.create "s" "")]
    let first := Event.call (.calm 6) "l" (.claim "1" "a")
    let between := [Event.call (.calm 7) "l" (.update "1" (.toStatus .pending)), .restart]
    let second := Event.call (.calm 8) "l" (.claim "1" "b")
    start.undisturbed "l" between ∧ (start.run before).winsClaim "l" "1" first = true ∧
      (start.run (before ++ first :: between)).winsClaim "l" "1" second = true ∧
      ∃ event ∈ between, event.releases "l" "1" := by
  intro start before first between second
  have alone : start.undisturbed "l" between := by
    intro path named event mem
    rcases List.mem_cons.mp mem with rfl | mem
    · trivial
    · rw [List.mem_singleton.mp mem]
      trivial
  have won : (start.run before).winsClaim "l" "1" first = true := by decide +kernel
  have again : (start.run (before ++ first :: between)).winsClaim "l" "1" second = true := by
    decide +kernel
  exact ⟨alone, won, again,
    (claim_exclusive ⟨.here, ["d"]⟩ .empty before "l" "1" 0).1 first between second alone won again⟩

end Site

end Taskboard
