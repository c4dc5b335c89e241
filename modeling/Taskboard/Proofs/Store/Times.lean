import Taskboard.Proofs.Store.Assured
import Taskboard.Proofs.Store.Restart

/-!
# Times of tasks

A task keeps its identifier, the second at which it was made and its information on blocked tasks for good, and
the second of its last change never goes back, whatever the clock shows. `Task.Continues` says so of two records;
it holds between any two records of a task in the memory of one store. Across restarts it holds as far as the
file has followed memory, which it has while every save succeeds.
-/

namespace Taskboard

open Disk

namespace Task

/-- Whether a record may be a later one of the same task. -/
structure Continues (old new : Task) : Prop where
  /-- The identifier stays. -/
  id : new.id = old.id
  /-- The second at which it was made stays. -/
  createdAt : new.createdAt = old.createdAt
  /-- What it is said to block stays. -/
  blocks : new.blocks = old.blocks
  /-- The second of the last change does not go back. -/
  updatedAt : old.updatedAt ≤ new.updatedAt

variable {first second third : Task} {now : Except QuantityFault Int}

theorem Continues.refl (task : Task) : task.Continues task := ⟨rfl, rfl, rfl, Int.le_refl _⟩

theorem Continues.trans (early : first.Continues second) (late : second.Continues third) :
    first.Continues third :=
  ⟨late.id.trans early.id, late.createdAt.trans early.createdAt, late.blocks.trans early.blocks,
    Int.le_trans early.updatedAt late.updatedAt⟩

/-- A record that follows one whose change is not older than its making is such a record, too. -/
theorem Continues.ordered (continues : first.Continues second) (ordered : first.createdAt ≤ first.updatedAt) :
    second.createdAt ≤ second.updatedAt := by
  rw [continues.createdAt]
  exact Int.le_trans ordered continues.updatedAt

/-- Noting the time of a change continues a task. -/
theorem continues_touched (task : Task) (now : Except QuantityFault Int) : task.Continues (task.touched now) := by
  cases now with
  | error fault => exact .refl task
  | ok second => exact ⟨rfl, rfl, rfl, Int.le_max_left _ _⟩

/-- An update continues a task. -/
theorem continues_apply (task : Task) (change : Change) (now : Except QuantityFault Int) :
    task.Continues ((task.apply change).touched now) :=
  have applied : task.Continues (task.apply change) := ⟨rfl, rfl, rfl, Int.le_refl _⟩
  applied.trans ((task.apply change).continues_touched now)

/-- A claim continues a task. -/
theorem continues_claimedBy (task : Task) (owner : Text) (now : Except QuantityFault Int) :
    task.Continues ((task.claimedBy owner).touched now) :=
  have claimed : task.Continues (task.claimedBy owner) := ⟨rfl, rfl, rfl, Int.le_refl _⟩
  claimed.trans ((task.claimedBy owner).continues_touched now)

end Task

namespace TaskList

variable {list after : TaskList} {now : Except QuantityFault Int} {operation : Operation} {key : Text}
  {task : Task}

/-- Whether a list has a later record of a task under a key. -/
def Carries (key : Text) (task : Task) (list : TaskList) : Prop :=
  ∃ later, list.find? key = some later ∧ task.Continues later

/-- Every change continues the tasks of a list. -/
theorem CounterAhead.carries_becomes (ahead : list.CounterAhead) (found : list.find? key = some task)
    (becomes : Becomes list now operation after) : after.Carries key task := by
  cases becomes with
  | @created subject description second shown short =>
    exact ⟨task, ahead.find?_grown short found subject description second, .refl task⟩
  | @updated taskId change old found' =>
    by_cases same : key = taskId
    · subst same
      cases found.symm.trans found'
      exact ⟨_, by rw [find?_put, if_pos rfl], task.continues_apply change now⟩
    · exact ⟨task, by rw [find?_put, if_neg same, found], .refl task⟩
  | @claimed taskId owner old found' pending free =>
    by_cases same : key = taskId
    · subst same
      cases found.symm.trans found'
      exact ⟨_, by rw [find?_put, if_pos rfl], task.continues_claimedBy owner now⟩
    · exact ⟨task, by rw [find?_put, if_neg same, found], .refl task⟩

/-- Every change leaves a task that was continued continued. -/
theorem Carries.becomes (carries : list.Carries key task) (ahead : list.CounterAhead)
    (becomes : Becomes list now operation after) : after.Carries key task := by
  obtain ⟨middle, found, early⟩ := carries
  obtain ⟨later, found', late⟩ := ahead.carries_becomes found becomes
  exact ⟨later, found', early.trans late⟩

/-- A record in a changed list is that of a new task, or a later one of a record that was there. Where the clock
shows no second, there is no new task and the times are the same. -/
theorem record_of_becomes (becomes : Becomes list now operation after) (found : after.find? key = some task) :
    (∃ second, now = .ok second ∧ task.createdAt = second ∧ task.updatedAt = second) ∨
      ∃ old, list.find? key = some old ∧ old.Continues task ∧ ∀ fault, now = .error fault → task.Continues old := by
  cases becomes with
  | @created subject description second shown short =>
    rw [grown, find?_put] at found
    split at found
    · cases found
      exact .inl ⟨second, shown, rfl, rfl⟩
    · exact .inr ⟨task, found, .refl task, fun _ _ => .refl task⟩
  | @updated taskId change old found' =>
    rw [find?_put] at found
    split at found
    · next same =>
      subst same
      cases found
      refine .inr ⟨old, found', old.continues_apply change now, ?_⟩
      rintro fault rfl
      exact ⟨rfl, rfl, rfl, Int.le_refl _⟩
    · exact .inr ⟨task, found, .refl task, fun _ _ => .refl task⟩
  | @claimed taskId owner old found' pending free =>
    rw [find?_put] at found
    split at found
    · next same =>
      subst same
      cases found
      refine .inr ⟨old, found', old.continues_claimedBy owner now, ?_⟩
      rintro fault rfl
      exact ⟨rfl, rfl, rfl, Int.le_refl _⟩
    · exact .inr ⟨task, found, .refl task, fun _ _ => .refl task⟩

/-- Whether the task under a key, if there is one, was not changed before it was made. -/
def Ordered (key : Text) (list : TaskList) : Prop :=
  ∀ task, list.find? key = some task → task.createdAt ≤ task.updatedAt

/-- Every change keeps the times of a task in order. -/
theorem Ordered.becomes (ordered : list.Ordered key) (becomes : Becomes list now operation after) :
    after.Ordered key := by
  intro task found
  rcases record_of_becomes becomes found with ⟨second, -, made, changed⟩ | ⟨old, found', continues, -⟩
  · exact Int.le_of_eq (made.trans changed.symm)
  · exact continues.ordered (ordered old found')

end TaskList

/-- Whether the clock of a moment can date an entry that is kept if it shows a second. -/
def Moment.dates (moment : Moment) : Prop :=
  ∀ second, moment.clock.second = .ok second → moment.keepsLog = true → ∃ time, moment.clock.logTime = .ok time

/-- A clock that shows a double can. -/
theorem Moment.dates_double (reading : Binary64) (breakdown : Option Breakdown) (keepsLog : Bool) :
    Moment.dates ⟨⟨.double reading⟩, breakdown, keepsLog⟩ := by
  intro second shown _
  refine ⟨(Instant.ofBinary64? reading).getD default, ?_⟩
  show ((Clock.mk (.double reading)).second.map fun _ => _) = _
  rw [shown]
  rfl

namespace Event

/-- Whether the store is lost. -/
def isRestart : Event → Bool
  | .restart => true
  | _ => false

/-- Whether the clock of a call can date an entry that is kept if it shows a second. -/
def dates : Event → Prop
  | .call moment _ _ => moment.dates
  | _ => True

end Event

namespace Site

variable {site : Site} {moment : Moment} {listId : Text} {operation : Operation} {event : Event}
  {events : List Event} {list : TaskList} {key : Text} {task : Task} {path : Path}

/-- An event other than a restart continues the tasks in memory. -/
theorem carries_advance (ahead : site.store.Ahead) (held : site.store.lists.find? listId = some list)
    (carries : list.Carries key task) (stays : event.isRestart = false) :
    ∃ after, (site.advance event).store.lists.find? listId = some after ∧ after.Carries key task := by
  cases event with
  | restart => cases stays
  | foreign change => exact ⟨list, held, carries⟩
  | call moment other operation =>
    have course := site.course moment other operation
    by_cases same : listId = other
    · subst same
      have opened : site.store.openedList listId (moment.host site.disk) = .ok list :=
        Store.openedList_of_held held
      refine ⟨_, course.held opened, ?_⟩
      cases left : (list.attempt listId (moment.host site.disk).clock.second operation).verdict.left? with
      | none => exact carries
      | some after => exact carries.becomes (ahead listId list held) (TaskList.becomes_of_left? left)
    · exact ⟨list, (course.find?_other same).trans held, carries⟩

/-- As long as there is no restart, the tasks in memory are continued. -/
theorem carries_run (ahead : site.store.Ahead) (held : site.store.lists.find? listId = some list)
    (carries : list.Carries key task) (stays : ∀ event ∈ events, event.isRestart = false) :
    ∃ after, (site.run events).store.lists.find? listId = some after ∧ after.Carries key task := by
  induction events generalizing site list with
  | nil => exact ⟨list, held, carries⟩
  | cons event events ih =>
    obtain ⟨after, held', carries'⟩ := carries_advance ahead held carries (stays event List.mem_cons_self)
    exact ih (ahead_advance ahead event) held' carries' fun event mem => stays event (List.mem_cons_of_mem _ mem)

/-- An operation that puts a task under a key leaves that task in memory, be it saved or not. -/
theorem held_put {put : Task} (opened : site.store.openedList listId (moment.host site.disk) = .ok list)
    (left : (list.attempt listId moment.clock.second operation).verdict.left? = some (list.put key put)) :
    ∃ after, (site.outcome moment listId operation).store.lists.find? listId = some after ∧
      after.find? key = some put := by
  have held := (site.course moment listId operation).held opened
  refine ⟨_, held.trans (congrArg (fun left => some (left.getD list)) left), ?_⟩
  rw [Option.getD_some, TaskList.find?_put, if_pos rfl]

/-- An update leaves the changed task with the time of the change in memory. -/
theorem held_update (opened : site.store.openedList listId (moment.host site.disk) = .ok list)
    (found : list.find? key = some task) (change : Change) :
    ∃ after, (site.outcome moment listId (.update key change)).store.lists.find? listId = some after ∧
      after.find? key = some ((task.apply change).touched moment.clock.second) := by
  have left : (list.update listId key change moment.clock.second).verdict.left? =
      some (list.put key ((task.apply change).touched moment.clock.second)) := by
    rw [TaskList.update_left?, found]
    rfl
  exact held_put opened left

/-- A claim of a task that is pending and waits for nothing leaves the claimed task with the time of the claim in
memory. -/
theorem held_claim (opened : site.store.openedList listId (moment.host site.disk) = .ok list)
    (found : list.find? key = some task) (pending : task.status = .pending)
    (free : list.incompleteDependencies task = []) (owner : Text) :
    ∃ after, (site.outcome moment listId (.claim key owner)).store.lists.find? listId = some after ∧
      after.find? key = some ((task.claimedBy owner).touched moment.clock.second) := by
  have left : (list.claim listId key owner moment.clock.second).verdict.left? =
      some (list.put key ((task.claimedBy owner).touched moment.clock.second)) := by
    rw [TaskList.claim_left?, found, Option.bind_some, if_pos ⟨pending, free⟩]
  exact held_put opened left

/-- Whether a file has a record of every task of a list that is as late. -/
def Backs (spare : Nat) (disk : Disk) (path : Path) (list : TaskList) : Prop :=
  ∀ key task, list.find? key = some task →
    ∃ bytes stored, disk.read path = .ok bytes ∧ TaskList.load spare bytes = .ok stored ∧ stored.Carries key task

/-- A list is backed by the file that loads to it. -/
theorem backs_of_load {spare : Nat} {disk : Disk} {bytes : List UInt8} (read : disk.read path = .ok bytes)
    (loaded : TaskList.load spare bytes = .ok list) : Backs spare disk path list :=
  fun _ task found => ⟨bytes, list, read, loaded, task, found, .refl task⟩

/-- Where the clock shows no second, a change needs no other file. -/
theorem Backs.becomes {spare : Nat} {disk : Disk} {after : TaskList} {fault : QuantityFault}
    (backs : Backs spare disk path list)
    (becomes : TaskList.Becomes list (.error fault) operation after) : Backs spare disk path after := by
  intro key task found
  rcases TaskList.record_of_becomes becomes found with ⟨second, shown, -⟩ | ⟨old, found', -, same⟩
  · cases shown
  · obtain ⟨bytes, stored, read, loaded, later, there, continues⟩ := backs key old found'
    exact ⟨bytes, stored, read, loaded, later, there, (same fault rfl).trans continues⟩

/-- Whether the list in memory, if there is one, is backed by its file. -/
def Backed (site : Site) (listId : Text) : Prop :=
  ∀ list, site.store.lists.find? listId = some list →
    ∃ path, site.store.filePath listId = .ok path ∧ Backs site.store.spare site.disk path list

/-- Then so is the list that is opened. -/
theorem Backed.opens (h : site.Backed listId)
    (opened : site.store.openedList listId (moment.host site.disk) = .ok list) :
    ∃ path, site.store.filePath listId = .ok path ∧ Backs site.store.spare site.disk path list := by
  cases Store.opens_of_openedList opened with
  | inMemory held => exact h list held
  | fetched absent named found =>
    refine ⟨_, named, ?_⟩
    rcases Store.fetch_ok found with ⟨-, rfl⟩ | ⟨bytes, read, loaded⟩
    · exact nofun
    · exact backs_of_load read loaded

/-- A call on a list leaves it backed unless a save fails. -/
theorem Backed.call (h : site.Backed listId) (ahead : site.store.Ahead) (dates : moment.dates)
    (saved : ∀ failure, (site.outcome moment listId operation).result = .error failure →
      failure.isFailedSave = false) :
    (site.advance (.call moment listId operation)).Backed listId := by
  have course := site.course moment listId operation
  have same (list : TaskList) : (site.store.hold listId list).lists.find? listId = some list := by
    rw [Store.find?_hold, if_pos rfl]
  intro list held
  rw [Store.filePath, folder_advance, spare_advance]
  have moves := fun moved => course.load_of_moved ahead moved
  rw [advance] at held ⊢
  generalize site.outcome moment listId operation = outcome at course saved held moves
  cases course with
  | unopened failure entries failed => exact h list held
  | unchanged result entries opened idle honest =>
    cases (same _).symm.trans held
    exact h.opens opened
  | unsaved failure entries opened left undated =>
    cases (same _).symm.trans held
    obtain ⟨path, named, backs⟩ := h.opens opened
    have becomes := TaskList.becomes_of_left? left
    refine ⟨path, named, ?_⟩
    cases shown : moment.clock.second with
    | ok second => exact absurd ⟨⟨second, shown⟩, dates second shown⟩ undated
    | error fault =>
      have none : (moment.host site.disk).clock.second = .error fault := shown
      rw [none] at becomes
      exact backs.becomes becomes
  | @saved list' after answer saving entries opened changed course =>
    cases result : saving.result with
    | error failure =>
      have failed : saving.result.map (fun _ => answer) = .error failure := by
        rw [result]
        rfl
      rcases course.reason result with unnamed | lost
      · obtain ⟨path, named, -⟩ := h.opens opened
        cases named.symm.trans unnamed
      · cases (saved failure failed).symm.trans lost
    | ok done =>
      obtain ⟨path, list'', bytes, named, held', read, loaded⟩ := moves (course.moved_of_ok result)
      cases held'.symm.trans held
      exact ⟨path, named, backs_of_load read loaded⟩

/-- A run in which no save fails leaves a list backed. -/
theorem Backed.run (h : site.Backed listId) (ahead : site.store.Ahead) (alone : site.undisturbed listId events)
    (dates : ∀ event ∈ events, event.dates)
    (saved : ∀ reply ∈ site.replies events, reply.isFailedSave = false) :
    (site.run events).Backed listId := by
  induction events generalizing site with
  | nil => exact h
  | cons event events ih =>
    have dates' : ∀ event ∈ events, event.dates := fun event mem => dates event (List.mem_cons_of_mem _ mem)
    have stays (leaves : ∀ path, site.store.filePath listId = .ok path →
        Leaves path site.disk (site.advance event).disk)
        (held : ∀ list, (site.advance event).store.lists.find? listId = some list →
          site.store.lists.find? listId = some list) : (site.advance event).Backed listId := by
      intro list there
      obtain ⟨path, named, backs⟩ := h list (held list there)
      rw [Store.filePath, folder_advance, spare_advance]
      refine ⟨path, named, fun key task found => ?_⟩
      obtain ⟨bytes, stored, read, rest⟩ := backs key task found
      exact ⟨bytes, stored, (leaves path named).readable bytes read, rest⟩
    have rest (first : (site.advance event).Backed listId)
        (saved : ∀ reply ∈ (site.advance event).replies events, reply.isFailedSave = false) :
        (site.run (event :: events)).Backed listId :=
      ih first (ahead_advance ahead event) alone.tail dates' saved
    cases event with
    | restart =>
      refine rest (fun list held => ?_) saved
      cases held
    | foreign change =>
      exact rest (stays (fun path named => alone path named _ List.mem_cons_self site.disk) fun _ held => held) saved
    | call moment other operation =>
      refine rest ?_ fun reply mem => saved reply (List.mem_cons_of_mem _ mem)
      have course := site.course moment other operation
      by_cases same : listId = other
      · subst same
        refine h.call ahead (dates _ List.mem_cons_self) fun failure failed => ?_
        have first := saved _ List.mem_cons_self
        rw [Reply.isFailedSave, failed] at first
        exact first
      · exact stays (fun path named => course.leaves_other same named)
          fun list held => (course.find?_other same).symm.trans held

/-- No event takes a task out of a list or sets its times back. -/
theorem preserves_carries (listId key : Text) (task : Task) (event : Event) :
    event.preserves listId (TaskList.Carries key task) := by
  cases event with
  | call moment other operation =>
    exact fun _ list now after ahead carries becomes => carries.becomes ahead becomes
  | restart => trivial
  | foreign change => trivial

/-- No event brings the times of a task out of order. -/
theorem preserves_ordered (listId key : Text) (event : Event) :
    event.preserves listId (TaskList.Ordered key) := by
  cases event with
  | call moment other operation => exact fun _ list now after _ ordered becomes => ordered.becomes becomes
  | restart => trivial
  | foreign change => trivial

/-- The times of tasks and what never changes about them, in every state of every run of a new store, whatever the
clock shows and however saves end.
As long as the store stays, each task in memory continues: its identifier, the second of its making and what it
blocks stay, and the second of its last change does not go back.
An update of a task that is found, and a claim of one that is pending and free, set the second of the last change
to the later one of the old one and the clock's, even if the save fails.
If no save has failed so far, each task in memory continues across restarts, too, both in memory and in the file.
A task under a key that the file did not have at first has never been changed before it was made, be it in
memory or in the file. For the last two, nobody else touches the file of the list. -/
theorem task_times (dataFolder : Path) (disk : Disk) (spare : Nat) (listId : Text) (early : List Event) :
    let site := (opened dataFolder disk spare).run early
    (∀ list key task events, site.store.lists.find? listId = some list → list.find? key = some task →
      (∀ event ∈ events, event.isRestart = false) →
      ∃ after, (site.run events).store.lists.find? listId = some after ∧ after.Carries key task) ∧
    (∀ moment second list key task, moment.clock.second = .ok second →
      site.store.openedList listId (moment.host site.disk) = .ok list → list.find? key = some task →
      (∀ change, ∃ after new,
        (site.outcome moment listId (.update key change)).store.lists.find? listId = some after ∧
        after.find? key = some new ∧ new.updatedAt = max task.updatedAt second) ∧
      ∀ owner, task.status = .pending → list.incompleteDependencies task = [] → ∃ after new,
        (site.outcome moment listId (.claim key owner)).store.lists.find? listId = some after ∧
        after.find? key = some new ∧ new.updatedAt = max task.updatedAt second) ∧
    ((opened dataFolder disk spare).undisturbed listId early →
      ((∀ event ∈ early, event.dates) →
        (∀ reply ∈ (opened dataFolder disk spare).replies early, reply.isFailedSave = false) →
        ∀ list key task, site.store.lists.find? listId = some list → list.find? key = some task →
          ∀ events, site.undisturbed listId events →
            ∃ path, (site.run events).Keeps listId path (TaskList.Carries key task)) ∧
      ∀ key, (∀ path bytes first, site.store.filePath listId = .ok path → disk.contents path = some bytes →
          TaskList.load spare bytes = .ok first → first.find? key = none) →
        (∀ list, site.store.lists.find? listId = some list → list.Ordered key) ∧
        ∀ path bytes list, site.store.filePath listId = .ok path → site.disk.contents path = some bytes →
          TaskList.load spare bytes = .ok list → list.Ordered key) := by
  intro site
  have start : (opened dataFolder disk spare).store.Ahead := Store.ahead_empty _ spare
  have ahead : site.store.Ahead := ahead_run start early
  refine ⟨?_, ?_, fun alone => ⟨?_, ?_⟩⟩
  · intro list key task events held found stays
    exact carries_run ahead held ⟨task, found, .refl task⟩ stays
  · intro moment second list key task shown opened found
    refine ⟨fun change => ?_, fun owner pending free => ?_⟩
    · obtain ⟨after, held, found'⟩ := held_update opened found change
      rw [shown] at found'
      exact ⟨after, _, held, found', rfl⟩
    · obtain ⟨after, held, found'⟩ := held_claim opened found pending free owner
      rw [shown] at found'
      exact ⟨after, _, held, found', rfl⟩
  · intro dates saved list key task held found events alone'
    have nothing : (opened dataFolder disk spare).Backed listId := nofun
    obtain ⟨path, named, backs⟩ := nothing.run start alone dates saved list held
    have carries : list.Carries key task := ⟨task, found, .refl task⟩
    have keeps : site.Keeps listId path (TaskList.Carries key task) := by
      refine ⟨named, fun other held' => ?_, backs key task found⟩
      cases held.symm.trans held'
      exact carries
    exact ⟨path, keeps.run ahead (fun event _ => preserves_carries listId key task event) (alone' path named)⟩
  · intro key new
    have assured : (opened dataFolder disk spare).Assures listId (TaskList.Ordered key) := by
      refine ⟨nofun, nofun, fun path bytes list named stored loaded task found => ?_⟩
      have none := new path bytes list ((filePath_run _ early listId).trans named) stored loaded
      cases none.symm.trans found
    have later := assured.run start (fun event _ => preserves_ordered listId key event) alone
    refine ⟨later.memory, fun path bytes list named stored loaded => later.file path bytes list named stored ?_⟩
    rw [spare_run]
    exact loaded

/-- A moment at some tenths of a second, before or after the start of 1970. -/
def tenths (negative : Bool) (count : Nat) (breakdown : Option Breakdown) : Moment :=
  ⟨⟨.double (.ofDecimal negative count (-1))⟩, breakdown, true⟩

theorem dates_tenths (negative : Bool) (count : Nat) (breakdown : Option Breakdown) :
    (tenths negative count breakdown).dates := Moment.dates_double _ breakdown true

/-- A run in which a task is made, and then updated while the clock has gone back to before the start of 1970. -/
def backward : List Event :=
  [.call (tenths false 105 none) "l" (.create "s" ""),
    .call (tenths true 35 none) "l" (.update "1" (.toStatus .pending))]

/-- A moment at which saves fail at once. -/
def full : Moment := tenths false 209 (some (.atOnce "no space left"))

/-- A claim at that moment. -/
def unsavedClaim : Event := .call full "l" (.claim "1" "a")

/-- After the clock has gone back, a claim that is not saved sets the time of the change forward in memory; after
a restart the task is there with times that have not gone back behind those before the claim. -/
theorem task_times_backward :
    (opened ⟨.here, ["d"]⟩ .empty 0).undisturbed "l" backward ∧ (∀ event ∈ backward, event.dates) ∧
      (∀ reply ∈ (opened ⟨.here, ["d"]⟩ .empty 0).replies backward, reply.isFailedSave = false) ∧
      ∃ list task, ((opened ⟨.here, ["d"]⟩ .empty 0).run backward).store.lists.find? "l" = some list ∧
        list.find? "1" = some task ∧ task.createdAt = 10 ∧ task.updatedAt = 10 ∧
        (∃ after, (((opened ⟨.here, ["d"]⟩ .empty 0).run backward).run [unsavedClaim]).store.lists.find? "l" =
          some after ∧ after.Carries "1" task) ∧
        (∃ after new, (((opened ⟨.here, ["d"]⟩ .empty 0).run backward).outcome full "l"
            (.claim "1" "a")).store.lists.find? "l" = some after ∧ after.find? "1" = some new ∧
          new.updatedAt = 20) ∧
        (∃ path, (((opened ⟨.here, ["d"]⟩ .empty 0).run backward).run [unsavedClaim, .restart]).Keeps "l" path
          (TaskList.Carries "1" task)) ∧
        list.Ordered "1" := by
  have alone : (opened ⟨.here, ["d"]⟩ .empty 0).undisturbed "l" backward := by
    intro path named event mem
    simp only [backward, List.mem_cons, List.not_mem_nil, or_false] at mem
    rcases mem with rfl | rfl <;> trivial
  have dates : ∀ event ∈ backward, event.dates :=
    List.forall_mem_cons.mpr ⟨dates_tenths false 105 none, List.forall_mem_singleton.mpr (dates_tenths true 35 none)⟩
  have saved : ∀ reply ∈ (opened ⟨.here, ["d"]⟩ .empty 0).replies backward, reply.isFailedSave = false := by
    decide +kernel
  have memory : (((opened ⟨.here, ["d"]⟩ .empty 0).run backward).store.lists.find? "l").bind
      (fun list => list.find? "1") = some { Task.fresh "1" "s" "" 10 with status := .pending } := by decide +kernel
  have shown : full.clock.second = .ok 20 := rfl
  obtain ⟨list, held, found⟩ := Option.bind_eq_some_iff.mp memory
  obtain ⟨stays, changes, restarts⟩ := task_times ⟨.here, ["d"]⟩ .empty 0 "l" backward
  obtain ⟨across, made⟩ := restarts alone
  have opens : ((opened ⟨.here, ["d"]⟩ .empty 0).run backward).store.openedList "l"
      (full.host ((opened ⟨.here, ["d"]⟩ .empty 0).run backward).disk) = .ok list := Store.openedList_of_held held
  obtain ⟨-, claims⟩ := changes full 20 list "1" _ shown opens found
  have claimed := claims "a" rfl rfl
  have later : ((opened ⟨.here, ["d"]⟩ .empty 0).run backward).undisturbed "l" [unsavedClaim, .restart] := by
    intro path named event mem
    simp only [List.mem_cons, List.not_mem_nil, or_false] at mem
    rcases mem with rfl | rfl <;> trivial
  have absent (path : Path) (bytes : List UInt8) (first : TaskList)
      (named : ((opened ⟨.here, ["d"]⟩ .empty 0).run backward).store.filePath "l" = .ok path)
      (stored : Disk.empty.contents path = some bytes) (_ : TaskList.load 0 bytes = .ok first) :
      first.find? "1" = none := by
    have named := (filePath_run _ backward "l").symm.trans named
    cases named
    have none : Disk.empty.contents ⟨.here, ["d", "tasks", "l.json"]⟩ = none := by decide +kernel
    cases none.symm.trans stored
  exact ⟨alone, dates, saved, list, _, held, found, rfl, rfl,
    stays list "1" _ [unsavedClaim] held found (List.forall_mem_singleton.mpr rfl), claimed,
    across dates saved list "1" _ held found [unsavedClaim, .restart] later, (made "1" absent).1 list held⟩

end Site

end Taskboard
