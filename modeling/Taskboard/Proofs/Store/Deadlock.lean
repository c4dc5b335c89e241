import Mathlib.Data.Set.Defs
import Taskboard.Proofs.Store.Decision

/-!
# Tasks that keep each other waiting

Some tasks are deadlocked if each of them is pending and waits for one of them: a task that waits for itself, a circle
of tasks, and whatever waits for such a circle. Nothing but an update of one of them ends that. A claim on one of
them is refused, and names one of them; a claim on another task, an update of one, and a new task put nothing
under their keys. So their records stay as they are through every sequence of calls, however saves may fail.
-/

namespace Taskboard

open Disk

/-- Whether an operation updates the task under a key. -/
def Operation.updates (key : Text) : Operation → Prop
  | .update taskId _ => taskId = key
  | _ => False

namespace TaskList

variable {list after : TaskList} {keys : Set Text} {key : Text} {operation : Operation}
  {now : Except QuantityFault Int}

/-- Each of the tasks is stored, is pending and waits for one of them. -/
def Deadlocked (list : TaskList) (keys : Set Text) : Prop :=
  ∀ key ∈ keys, ∃ task, list.find? key = some task ∧ task.status = .pending ∧ ∃ other ∈ task.blockedBy, other ∈ keys

/-- The tasks are found as in another list. -/
def Alike (list after : TaskList) (keys : Set Text) : Prop :=
  ∀ key ∈ keys, after.find? key = list.find? key

/-- Where they are found unchanged, they are deadlocked still. -/
theorem Deadlocked.alike (h : list.Deadlocked keys) (alike : list.Alike after keys) : after.Deadlocked keys := by
  intro key mem
  rw [alike key mem]
  exact h key mem

/-- A deadlocked task is still to be waited for. -/
theorem Deadlocked.unmet (h : list.Deadlocked keys) (mem : key ∈ keys) : list.Unmet key := by
  obtain ⟨task, found, pending, -⟩ := h key mem
  intro task' found'
  cases found.symm.trans found'
  rw [pending]
  decide

/-- An operation that updates none of them leaves deadlocked tasks as they are. -/
theorem Deadlocked.becomes (h : list.Deadlocked keys) (ahead : list.CounterAhead)
    (spared : ∀ key ∈ keys, ¬ operation.updates key) (becomes : Becomes list now operation after) :
    list.Alike after keys := by
  intro key mem
  obtain ⟨task, found, pending, other, dependency, mem'⟩ := h key mem
  cases becomes with
  | created shown short => rw [ahead.find?_grown short found, found]
  | updated found' => rw [find?_put, if_neg fun same => spared key mem same.symm]
  | claimed found' pending' free =>
    -- A member is never the task that is claimed, since it waits for another member.
    rw [find?_put, if_neg]
    rintro rfl
    cases found.symm.trans found'
    exact incompleteDependencies_eq_nil.mp free other dependency (h.unmet mem')

end TaskList

namespace Event

/-- Whether an event is an update of the task under a key of a list. -/
def updates (listId key : Text) : Event → Prop
  | .call _ other operation => other = listId ∧ operation.updates key
  | _ => False

end Event

namespace Site

variable {site : Site} {listId : Text} {list : TaskList} {keys : Set Text} {key : Text} {event : Event}
  {events : List Event}

/-- An event that spares the file and updates none of them leaves deadlocked tasks as they are. -/
theorem deadlocked_advance (ahead : site.store.Ahead) (opens : site.store.Opens listId site.disk list)
    (deadlocked : list.Deadlocked keys) (mem : key ∈ keys)
    (alone : ∀ path, site.store.filePath listId = .ok path → event.sparesFile path)
    (stays : event.isRestart = false) (spared : ∀ key ∈ keys, ¬ event.updates listId key) :
    ∃ after, (site.advance event).store.Opens listId (site.advance event).disk after ∧ list.Alike after keys := by
  obtain ⟨task, found, -⟩ := deadlocked key mem
  cases event with
  | call moment other operation =>
    have course := site.course moment other operation
    by_cases same : listId = other
    · subst same
      rcases course.memory with ⟨store, disk⟩ | ⟨opened, after, opened', held, came⟩
      · refine ⟨list, ?_, fun _ _ => rfl⟩
        rw [advance, store, disk]
        exact opens
      · cases opens.unique (Store.opens_of_openedList opened')
        refine ⟨after, .inMemory held, ?_⟩
        rcases came with rfl | becomes
        · exact fun _ _ => rfl
        · exact deadlocked.becomes (ahead.counterAhead_of_opens opens)
            (fun key mem updates => spared key mem ⟨rfl, updates⟩) becomes
    · refine ⟨list, opens.leaves found (course.find?_other same) course.folder course.spare ?_, fun _ _ => rfl⟩
      exact fun path named => course.leaves_other same named
  | restart => cases stays
  | foreign change =>
    exact ⟨list, opens.leaves found rfl rfl rfl fun path named => alone path named site.disk,
      fun _ _ => rfl⟩

/-- Events that spare the file and update none of them leave deadlocked tasks as they are. -/
theorem deadlocked_run (ahead : site.store.Ahead) (opens : site.store.Opens listId site.disk list)
    (deadlocked : list.Deadlocked keys) (mem : key ∈ keys) (alone : site.undisturbed listId events)
    (stays : ∀ event ∈ events, event.isRestart = false)
    (spared : ∀ event ∈ events, ∀ key ∈ keys, ¬ event.updates listId key) :
    ∃ after, (site.run events).store.Opens listId (site.run events).disk after ∧ list.Alike after keys := by
  induction events generalizing site list with
  | nil => exact ⟨list, opens, fun _ _ => rfl⟩
  | cons event events ih =>
    obtain ⟨middle, opens', alike⟩ := deadlocked_advance ahead opens deadlocked mem
      (fun path named => alone path named event List.mem_cons_self) (stays event List.mem_cons_self)
      (spared event List.mem_cons_self)
    obtain ⟨after, opens'', alike'⟩ := ih (ahead_advance ahead event) opens' (deadlocked.alike alike) alone.tail
      (fun event mem => stays event (List.mem_cons_of_mem _ mem))
      fun event mem => spared event (List.mem_cons_of_mem _ mem)
    exact ⟨after, opens'', fun key mem => (alike' key mem).trans (alike key mem)⟩

/-- A claim on a deadlocked task is refused and names a deadlocked task. -/
theorem claim_of_deadlocked (filed : site.store.Filed) (opens : site.store.Opens listId site.disk list)
    (deadlocked : list.Deadlocked keys) (mem : key ∈ keys) (moment : Moment) (owner : Text) {now : Int}
    (shown : moment.clock.second = .ok now) (dates : moment.dates) :
    ∃ unmet, (site.outcome moment listId (.claim key owner)).result = .error (.blocked key unmet) ∧
      ∃ other ∈ unmet, other ∈ keys := by
  have dated : Store.dated (moment.host site.disk) := ⟨⟨now, shown⟩, dates now shown⟩
  have opened : site.store.openedList listId (moment.host site.disk) = .ok list :=
    opens.openedList (Store.noting_of_dated dated)
  obtain ⟨after, -, decided, -⟩ := Store.decided_perform key owner dated shown (filed.named opened) opened
  obtain ⟨task, found, pending, other, dependency, mem'⟩ := deadlocked key mem
  have unmet := deadlocked.unmet mem'
  refine ⟨_, (decided.of_waits found pending dependency unmet).1, other, ?_, mem'⟩
  exact List.mem_filter.mpr ⟨dependency, decide_eq_true unmet⟩

/-- Deadlocked tasks of a list, in memory or still in its file, stay as they are through every run without a
restart in which nobody else touches the file and no call updates one of them, whatever saves fail: the list that is
opened next has the same pending record of each, and whoever claims one is refused and told of one of them. -/
theorem deadlock_lasts (dataFolder : Path) (disk : Disk) (spare : Nat) (before : List Event) (listId : Text)
    (list : TaskList) (keys : Set Text)
    (opens : ((opened dataFolder disk spare).run before).store.Opens listId
      ((opened dataFolder disk spare).run before).disk list)
    (deadlocked : list.Deadlocked keys) (events : List Event)
    (alone : ((opened dataFolder disk spare).run before).undisturbed listId events)
    (stays : ∀ event ∈ events, event.isRestart = false)
    (spared : ∀ event ∈ events, ∀ key ∈ keys, ¬ event.updates listId key) :
    let after := ((opened dataFolder disk spare).run before).run events
    ∀ key ∈ keys, ∃ task, list.find? key = some task ∧ task.status = .pending ∧
      (∃ left, after.store.Opens listId after.disk left ∧ left.find? key = some task) ∧
      ∀ moment owner now, moment.clock.second = .ok now → moment.dates →
        ∃ unmet, (after.outcome moment listId (.claim key owner)).result = .error (.blocked key unmet) ∧
          ∃ other ∈ unmet, other ∈ keys := by
  intro after key mem
  have ahead := ahead_opened dataFolder disk spare before
  have filed : after.store.Filed := filed_run (filed_opened dataFolder disk spare before) events
  obtain ⟨left, opens', alike⟩ := deadlocked_run ahead opens deadlocked mem alone stays spared
  obtain ⟨task, found, pending, -⟩ := deadlocked key mem
  refine ⟨task, found, pending, ⟨left, opens', (alike key mem).trans found⟩, fun moment owner now shown dates => ?_⟩
  exact claim_of_deadlocked filed opens' (deadlocked.alike alike) mem moment owner shown dates

/-- Events after which the first two tasks wait for each other and the third for the first. -/
def entangling : List Event :=
  [.call (.calm 1) "l" (.create "s" ""), .call (.calm 2) "l" (.create "t" ""), .call (.calm 3) "l" (.create "u" ""),
    .call (.calm 4) "l" (.update "1" ⟨none, none, none, none, some ["2"]⟩),
    .call (.calm 5) "l" (.update "2" ⟨none, none, none, none, some ["1"]⟩),
    .call (.calm 6) "l" (.update "3" ⟨none, none, none, none, some ["1"]⟩)]

/-- The list that they leave. -/
def entangled : TaskList :=
  ⟨4, .ofList [("1", ⟨"1", "s", "", .pending, 1, 4, none, [], ["2"]⟩),
    ("2", ⟨"2", "t", "", .pending, 2, 5, none, [], ["1"]⟩),
    ("3", ⟨"3", "u", "", .pending, 3, 6, none, [], ["1"]⟩)]⟩

/-- Events that do not help: a claim, a task that is completed although it waits, and a new task that is not saved. -/
def unhelpful : List Event :=
  [.call (.calm 7) "l" (.claim "1" "w"), .call (.calm 8) "l" (.update "3" (.toStatus .completed)),
    .call ⟨.ofInt 9, some ⟨"disk full", 1, none⟩, true⟩ "l" (.create "v" "")]

/-- After them, the first task waits for the second as before, and a claim on it says so. -/
theorem deadlock_lasts_entangled :
    let after := ((opened ⟨.here, ["d"]⟩ .empty 0).run entangling).run unhelpful
    (∃ left, after.store.Opens "l" after.disk left ∧
      left.find? "1" = some ⟨"1", "s", "", .pending, 1, 4, none, [], ["2"]⟩) ∧
    ∃ unmet, (after.outcome (.calm 10) "l" (.claim "1" "w")).result = .error (.blocked "1" unmet) ∧
      ∃ other ∈ unmet, other = "1" ∨ other = "2" := by
  intro after
  have held : ((opened ⟨.here, ["d"]⟩ .empty 0).run entangling).store.lists.find? "l" = some entangled := by
    decide +kernel
  have first : entangled.find? "1" = some ⟨"1", "s", "", .pending, 1, 4, none, [], ["2"]⟩ := by decide +kernel
  have second : entangled.find? "2" = some ⟨"2", "t", "", .pending, 2, 5, none, [], ["1"]⟩ := by decide +kernel
  have deadlocked : entangled.Deadlocked fun key => key = "1" ∨ key = "2" := by
    rintro key (rfl | rfl)
    · exact ⟨_, first, rfl, "2", List.mem_cons_self, .inr rfl⟩
    · exact ⟨_, second, rfl, "1", List.mem_cons_self, .inl rfl⟩
  have alone : ((opened ⟨.here, ["d"]⟩ .empty 0).run entangling).undisturbed "l" unhelpful := by
    simp [undisturbed, unhelpful, Event.sparesFile]
  have stays : ∀ event ∈ unhelpful, event.isRestart = false := by simp [unhelpful, Event.isRestart]
  have spared : ∀ event ∈ unhelpful, ∀ key : Text, key = "1" ∨ key = "2" → ¬ event.updates "l" key := by
    simp [unhelpful, Event.updates, Operation.updates]
  have dates : (Moment.calm 10).dates := fun _ _ _ => ⟨_, rfl⟩
  obtain ⟨task, found, -, left, refused⟩ := deadlock_lasts ⟨.here, ["d"]⟩ .empty 0 entangling "l" entangled _
    (.inMemory held) deadlocked unhelpful alone stays spared "1" (.inl rfl)
  cases first.symm.trans found
  exact ⟨left, refused (.calm 10) "w" 10 rfl dates⟩

end Site

end Taskboard
