import Taskboard.Proofs.Store.Operation
import Taskboard.Proofs.Store.Save

/-!
# The course of an operation

An operation on a store opens its list, from memory or else from the file, and then either leaves the list
as it is, or leaves a changed list in memory that is not saved, or saves one. `Store.Course` says all that
can come of it; what an operation does to memory and to the files is derived from that.
-/

namespace Taskboard.Store

open Disk

variable {store : Store} {listId other : Text} {list after : TaskList} {operation : Operation}
  {host : Host} {path : Path}

/-- A list that is in memory is found again, and no other is touched. -/
theorem find?_hold :
    (store.hold listId list).lists.find? other =
      if other = listId then some list else store.lists.find? other :=
  Keyed.find?_put store.lists listId list other

/-- Keeping a list in memory that is there already changes nothing. -/
theorem hold_eq_self (h : store.lists.find? listId = some list) : store.hold listId list = store := by
  have same : store.lists.put listId list = store.lists := Keyed.ext (Entries.put_eq_self h)
  rw [hold, same]

/-- Of two lists kept under one identifier the second stays. -/
theorem hold_hold : (store.hold listId list).hold listId after = store.hold listId after := by
  have same : (store.lists.put listId list).put listId after = store.lists.put listId after :=
    Keyed.ext (Entries.put_put listId list after store.lists.entries)
  rw [hold, hold, hold, same]

/-- The list that an operation works on: the one in memory, or else the one that its file holds. -/
inductive Opens (store : Store) (listId : Text) (disk : Disk) (list : TaskList) : Prop where
  /-- It is in memory. -/
  | inMemory (held : store.lists.find? listId = some list)
  /-- It is taken from its file. -/
  | fetched {path : Path} {entry : Entry} (absent : store.lists.find? listId = none)
      (named : store.filePath listId = .ok path) (found : fetch store.spare listId path disk = .ok (list, entry))

/-- What opening a list comes to: the list, or why there is none. -/
def openedList (store : Store) (listId : Text) (host : Host) : Except Failure TaskList :=
  (store.keep listId (store.lookUp listId host.disk) host).1

/-- A list that is opened is in memory from then on, and nothing else changes there. -/
theorem keep_ok {opened : Store}
    (h : store.keep listId (store.lookUp listId host.disk) host = (.ok list, opened)) :
    opened = store.hold listId list ∧ store.Opens listId host.disk list := by
  rw [lookUp] at h
  cases held : store.lists.find? listId with
  | some list' =>
    rw [held] at h
    cases h
    exact ⟨(hold_eq_self held).symm, .inMemory held⟩
  | none =>
    rw [held] at h
    cases named : store.filePath listId with
    | error failure =>
      rw [named] at h
      cases h
    | ok path =>
      rw [named] at h
      simp only [keep] at h
      cases found : fetch store.spare listId path host.disk with
      | error failure =>
        rw [found] at h
        cases h
      | ok pair =>
        rw [found] at h
        simp only at h
        split at h
        · cases h
        · cases h
          exact ⟨rfl, .fetched held named found⟩

/-- A list that cannot be opened leaves the store as it is. -/
theorem keep_error {failure : Failure} {opened : Store}
    (h : store.keep listId (store.lookUp listId host.disk) host = (.error failure, opened)) :
    opened = store := by
  rw [keep.eq_def] at h
  split at h
  · cases h
  · cases h
    rfl
  · cases h
    rfl
  · split at h
    · cases h
      rfl
    · cases h

/-- A list that is opened comes from memory or from its file. -/
theorem opens_of_openedList (h : store.openedList listId host = .ok list) :
    store.Opens listId host.disk list := by
  cases kept : store.keep listId (store.lookUp listId host.disk) host with
  | mk result opened =>
    rw [openedList, kept] at h
    obtain rfl : result = .ok list := h
    exact (keep_ok kept).2

/-- There is one list that an operation works on. -/
theorem Opens.unique {disk : Disk} (first : store.Opens listId disk list) (second : store.Opens listId disk after) :
    list = after := by
  cases first with
  | inMemory held =>
    cases second with
    | inMemory held' => exact Option.some.inj (held.symm.trans held')
    | fetched absent named found => cases held.symm.trans absent
  | fetched absent named found =>
    cases second with
    | inMemory held => cases held.symm.trans absent
    | fetched absent' named' found' =>
      cases named.symm.trans named'
      cases found.symm.trans found'
      rfl

/-- Whether the clock shows a second for tasks and, where a log is kept, a time for its entries. -/
def dated (host : Host) : Prop :=
  (∃ second, host.clock.second = .ok second) ∧
    (host.keepsLog = true → ∃ time, host.clock.logTime = .ok time)

/-- Where the clock can date an entry that is kept, an entry can be noted. -/
theorem noting_of_dated (h : dated host) : host.noting = .ok () := by
  rw [Host.noting]
  split
  · next keeps =>
    obtain ⟨time, shown⟩ := h.2 keeps
    rw [shown]
    rfl
  · rfl

/-- Where the clock can date an entry that is kept, any entries can be noted. -/
theorem notingAll_of_dated (h : dated host) (entries : List Entry) : host.notingAll entries = .ok () := by
  rw [Host.notingAll, noting_of_dated h]
  split <;> rfl

/-- All that can come of an operation. -/
inductive Course (store : Store) (listId : Text) (operation : Operation) (host : Host) :
    Outcome operation.Answer → Prop where
  /-- The list could not be opened. -/
  | unopened (failure : Failure) (entries : List Entry)
      (failed : store.openedList listId host = .error failure) :
      Course store listId operation host ⟨.error failure, store, host.disk, entries, false, false⟩
  /-- The list stays as it is. -/
  | unchanged {list : TaskList} (result : Except Failure operation.Answer) (entries : List Entry)
      (opened : store.openedList listId host = .ok list)
      (idle : (list.attempt listId host.clock.second operation).verdict.left? = none)
      (honest : ∀ answer, result = .ok answer →
        (list.attempt listId host.clock.second operation).verdict = .answered answer) :
      Course store listId operation host
        ⟨result, store.hold listId list, host.disk, entries, false, false⟩
  /-- The list is changed in memory and no save is tried, since the clock does not show what is needed. -/
  | unsaved {list after : TaskList} (failure : Failure) (entries : List Entry)
      (opened : store.openedList listId host = .ok list)
      (left : (list.attempt listId host.clock.second operation).verdict.left? = some after)
      (undated : ¬ dated host) :
      Course store listId operation host
        ⟨.error failure, store.hold listId after, host.disk, entries, false, false⟩
  /-- The list is changed in memory and a save is tried. -/
  | saved {list after : TaskList} {answer : operation.Answer} {saving : Saving} (entries : List Entry)
      (opened : store.openedList listId host = .ok list)
      (changed : (list.attempt listId host.clock.second operation).verdict = .changed after answer)
      (course : Saved (store.hold listId after) listId after host saving) :
      Course store listId operation host
        ⟨saving.result.map fun _ => answer, store.hold listId after, saving.disk, entries,
          saving.touched, saving.moved⟩

/-- Every operation takes one of the courses. -/
theorem course_perform (store : Store) (listId : Text) (operation : Operation) (host : Host) :
    Course store listId operation host (store.perform listId operation host) := by
  rw [perform]
  simp only
  cases kept : store.keep listId (store.lookUp listId host.disk) host with
  | mk result stood =>
    have opened : store.openedList listId host = result := by rw [openedList, kept]
    cases result with
    | error failure =>
      cases keep_error kept
      exact .unopened failure _ opened
    | ok list =>
      cases (keep_ok kept).1
      simp only [settle, hold_hold]
      cases verdict : (list.attempt listId host.clock.second operation).verdict with
      | brokenOff after failure =>
        refine .unsaved failure _ opened (by rw [verdict]; rfl) fun dated => ?_
        obtain ⟨second, shown⟩ := dated.1
        obtain ⟨fault, undated⟩ := TaskList.now_of_brokenOff verdict
        cases shown.symm.trans undated
      | changed after answer =>
        cases noting : host.notingAll (list.attempt listId host.clock.second operation).entries with
        | error failure =>
          refine .unsaved failure _ opened (by rw [verdict]; rfl) fun dated => ?_
          rw [notingAll_of_dated dated] at noting
          cases noting
        | ok noted => exact .saved _ opened verdict (saved_save _ listId after host)
      | refused failure =>
        have idle : (list.attempt listId host.clock.second operation).verdict.left? = none := by
          rw [verdict]
          rfl
        cases host.notingAll (list.attempt listId host.clock.second operation).entries with
        | error failure => exact .unchanged _ _ opened idle nofun
        | ok noted => exact .unchanged _ _ opened idle nofun
      | answered answer =>
        have idle : (list.attempt listId host.clock.second operation).verdict.left? = none := by
          rw [verdict]
          rfl
        cases host.notingAll (list.attempt listId host.clock.second operation).entries with
        | error failure => exact .unchanged _ _ opened idle nofun
        | ok noted =>
          refine .unchanged _ _ opened idle fun other same => ?_
          cases same
          exact verdict

/-- A list that cannot be opened makes every operation on it fail, and nothing is changed. -/
theorem perform_of_unopened {failure : Failure} (operation : Operation)
    (failed : store.openedList listId host = .error failure) :
    (store.perform listId operation host).result = .error failure ∧
      (store.perform listId operation host).store = store ∧
      (store.perform listId operation host).disk = host.disk := by
  have course := course_perform store listId operation host
  generalize store.perform listId operation host = outcome at course
  cases course with
  | unopened why entries failed' =>
    cases failed.symm.trans failed'
    exact ⟨rfl, rfl, rfl⟩
  | unchanged result entries opened idle honest => cases failed.symm.trans opened
  | unsaved why entries opened left undated => cases failed.symm.trans opened
  | saved entries opened changed course => cases failed.symm.trans opened

/-- A question that can be answered from the opened list is answered from it. -/
theorem result_of_question {answer : TaskList → operation.Answer}
    (question : ∀ (list : TaskList) now,
      list.attempt listId now operation = ⟨[], .answered (answer list)⟩) :
    (store.perform listId operation host).result = (store.openedList listId host).map answer := by
  rw [perform, openedList]
  cases store.keep listId (store.lookUp listId host.disk) host with
  | mk result opened =>
    cases result with
    | error failure => rfl
    | ok list =>
      simp only [settle, question]
      rfl

/-- A list that is fetched is the empty one where no file is found, or else what the file holds. -/
theorem fetch_ok {spare : Nat} {disk : Disk} {entry : Entry} (h : fetch spare listId path disk = .ok (list, entry)) :
    disk.read path = .error .notFound ∧ list = .empty ∨
      ∃ bytes, disk.read path = .ok bytes ∧ TaskList.load spare bytes = .ok list := by
  rw [fetch] at h
  cases read : disk.read path with
  | error failure =>
    cases failure with
    | notFound =>
      rw [read] at h
      cases h
      exact .inl ⟨rfl, rfl⟩
    | _ =>
      rw [read] at h
      cases h
  | ok bytes =>
    rw [read] at h
    simp only at h
    split at h
    · next loaded =>
      cases h
      exact .inr ⟨bytes, rfl, loaded⟩
    · cases h
    · cases h

/-- A file that loads is fetched. -/
theorem fetch_of_load {spare : Nat} {disk : Disk} {bytes : List UInt8} (read : disk.read path = .ok bytes)
    (loaded : TaskList.load spare bytes = .ok list) : ∃ entry, fetch spare listId path disk = .ok (list, entry) := by
  rw [fetch, read]
  simp only [loaded]
  exact ⟨_, rfl⟩

/-- A list in memory is the one that is opened. -/
theorem openedList_of_held (held : store.lists.find? listId = some list) :
    store.openedList listId host = .ok list := by
  rw [openedList, lookUp, held]
  rfl

/-- A list that is fetched is opened if that can be noted. -/
theorem openedList_of_fetch {entry : Entry} (absent : store.lists.find? listId = none)
    (named : store.filePath listId = .ok path) (found : fetch store.spare listId path host.disk = .ok (list, entry))
    (noted : host.noting = .ok ()) : store.openedList listId host = .ok list := by
  rw [openedList, lookUp, absent]
  simp only [named, found, keep, noted]

/-- The list that an operation works on is opened if that can be noted. -/
theorem Opens.openedList (opens : store.Opens listId host.disk list) (noted : host.noting = .ok ()) :
    store.openedList listId host = .ok list := by
  cases opens with
  | inMemory held => exact openedList_of_held held
  | fetched absent named found => exact openedList_of_fetch absent named found noted

/-- A list with a task stays the one to work on while the store holds what it held of it and its file is left
alone. -/
theorem Opens.leaves {disk left : Disk} {next : Store} {key : Text} {task : Task}
    (opens : store.Opens listId disk list) (stored : list.find? key = some task)
    (same : next.lists.find? listId = store.lists.find? listId) (folder : next.folder = store.folder)
    (spare : next.spare = store.spare)
    (spared : ∀ path, store.filePath listId = .ok path → Leaves path disk left) : next.Opens listId left list := by
  cases opens with
  | inMemory held => exact .inMemory (same.trans held)
  | @fetched path entry absent named found =>
    rcases fetch_ok found with ⟨-, rfl⟩ | ⟨bytes, read, loaded⟩
    · cases stored
    · obtain ⟨entry', found'⟩ := fetch_of_load ((spared path named).readable bytes read) loaded
      rw [← spare] at found'
      refine .fetched (same.trans absent) ?_ found'
      rw [filePath, folder]
      exact named

/-- The counter of every list in memory is ahead of its keys. -/
def Ahead (store : Store) : Prop :=
  ∀ listId list, store.lists.find? listId = some list → list.CounterAhead

/-- A store with nothing in memory has no counter behind. -/
theorem ahead_empty (folder : Path) (spare : Nat) : Ahead ⟨folder, .empty, spare⟩ := fun _ _ h => nomatch h

/-- One more list with its counter ahead. -/
theorem Ahead.hold (h : store.Ahead) (ahead : list.CounterAhead) : (store.hold listId list).Ahead := by
  intro other list' held
  rw [find?_hold] at held
  split at held
  · cases held
    exact ahead
  · exact h other list' held

/-- Every list that an operation works on has its counter ahead. -/
theorem Ahead.counterAhead_of_opens {disk : Disk} (h : store.Ahead) (opens : store.Opens listId disk list) :
    list.CounterAhead := by
  cases opens with
  | inMemory held => exact h listId list held
  | fetched absent named found =>
    rcases fetch_ok found with ⟨-, rfl⟩ | ⟨bytes, -, loaded⟩
    · exact TaskList.counterAhead_empty
    · exact TaskList.counterAhead_of_load loaded

/-- Every list that is opened has its counter ahead. -/
theorem Ahead.counterAhead (h : store.Ahead) (opened : store.openedList listId host = .ok list) :
    list.CounterAhead :=
  h.counterAhead_of_opens (opens_of_openedList opened)

namespace Course

variable {outcome : Outcome operation.Answer}

/-- A list that is to be saved is a change of the list that was opened. -/
theorem becomes_of_changed {now : Except QuantityFault Int} {answer : operation.Answer}
    (changed : (list.attempt listId now operation).verdict = .changed after answer) :
    TaskList.Becomes list now operation after :=
  TaskList.becomes_of_left? (by rw [changed]; rfl)

/-- The folder of a store stays. -/
theorem folder (h : Course store listId operation host outcome) : outcome.store.folder = store.folder := by
  cases h <;> rfl

/-- The room for the reader stays. -/
theorem spare (h : Course store listId operation host outcome) : outcome.store.spare = store.spare := by
  cases h <;> rfl

/-- An operation on one list leaves the others in memory as they are. -/
theorem find?_other (h : Course store listId operation host outcome) (ne : other ≠ listId) :
    outcome.store.lists.find? other = store.lists.find? other := by
  have held (list : TaskList) : (store.hold listId list).lists.find? other = store.lists.find? other := by
    rw [find?_hold, if_neg ne]
  cases h with
  | unopened failure entries failed => rfl
  | unchanged result entries opened idle honest => exact held _
  | unsaved failure entries opened left undated => exact held _
  | saved entries opened changed course => exact held _

/-- The list that is opened is in memory afterwards, with the change if there is one. -/
theorem held (h : Course store listId operation host outcome)
    (opened : store.openedList listId host = .ok list) :
    outcome.store.lists.find? listId =
      some ((list.attempt listId host.clock.second operation).verdict.left?.getD list) := by
  cases h with
  | unopened failure entries failed => cases opened.symm.trans failed
  | unchanged result entries opened' idle honest =>
    cases opened.symm.trans opened'
    rw [find?_hold, if_pos rfl, idle]
    rfl
  | unsaved failure entries opened' left undated =>
    cases opened.symm.trans opened'
    rw [find?_hold, if_pos rfl, left]
    rfl
  | saved entries opened' changed course =>
    cases opened.symm.trans opened'
    rw [find?_hold, if_pos rfl, changed]
    rfl

/-- After an operation the store and the files are as before, or the list that was opened is in memory,
perhaps with a change. -/
theorem memory (h : Course store listId operation host outcome) :
    outcome.store = store ∧ outcome.disk = host.disk ∨
      ∃ list after, store.openedList listId host = .ok list ∧
        outcome.store.lists.find? listId = some after ∧
        (after = list ∨ TaskList.Becomes list host.clock.second operation after) := by
  have same (list : TaskList) : (store.hold listId list).lists.find? listId = some list := by
    rw [find?_hold, if_pos rfl]
  cases h with
  | unopened failure entries failed => exact .inl ⟨rfl, rfl⟩
  | @unchanged list result entries opened idle honest =>
    exact .inr ⟨list, list, opened, same list, .inl rfl⟩
  | @unsaved list after failure entries opened left undated =>
    exact .inr ⟨list, after, opened, same after, .inr (TaskList.becomes_of_left? left)⟩
  | @saved list after answer saving entries opened changed course =>
    exact .inr ⟨list, after, opened, same after, .inr (becomes_of_changed changed)⟩

/-- What is answered comes from the list that was opened. -/
theorem verdict_of_ok (h : Course store listId operation host outcome) {answer : operation.Answer}
    (ok : outcome.result = .ok answer) :
    ∃ list, store.openedList listId host = .ok list ∧
      ((list.attempt listId host.clock.second operation).verdict = .answered answer ∨
        ∃ after, (list.attempt listId host.clock.second operation).verdict = .changed after answer) := by
  cases h with
  | unopened failure entries failed => cases ok
  | unchanged result entries opened idle honest => exact ⟨_, opened, .inl (honest answer ok)⟩
  | unsaved failure entries opened left undated => cases ok
  | @saved list after answer' saving entries opened changed course =>
    refine ⟨list, opened, .inr ⟨after, ?_⟩⟩
    cases result : saving.result with
    | error failure =>
      rw [result] at ok
      cases ok
    | ok done =>
      rw [result] at ok
      cases ok
      exact changed

/-- A change that is answered is made to the list that was opened. -/
theorem changed_of_ok (h : Course store listId operation host outcome) (change : operation.isChange = true)
    {answer : operation.Answer} (ok : outcome.result = .ok answer) :
    ∃ list after, store.openedList listId host = .ok list ∧
      (list.attempt listId host.clock.second operation).verdict = .changed after answer := by
  obtain ⟨list, opened, answered | ⟨after, changed⟩⟩ := h.verdict_of_ok ok
  · rw [TaskList.isChange_of_answered answered] at change
    cases change
  · exact ⟨list, after, opened, changed⟩

/-- Every operation leaves counters ahead. -/
theorem ahead (h : Course store listId operation host outcome) (before : store.Ahead) :
    outcome.store.Ahead := by
  cases h with
  | unopened failure entries failed => exact before
  | unchanged result entries opened idle honest => exact before.hold (before.counterAhead opened)
  | unsaved failure entries opened left undated =>
    exact before.hold ((before.counterAhead opened).becomes (TaskList.becomes_of_left? left))
  | saved entries opened changed course =>
    exact before.hold ((before.counterAhead opened).becomes (becomes_of_changed changed))

/-- An operation on one list leaves the files of others alone. -/
theorem leaves_other (h : Course store listId operation host outcome) (ne : other ≠ listId)
    (named : store.filePath other = .ok path) : Leaves path host.disk outcome.disk := by
  cases h with
  | unopened failure entries failed => exact .refl path _
  | unchanged result entries opened idle honest => exact .refl path _
  | unsaved failure entries opened left undated => exact .refl path _
  | saved entries opened changed course => exact course.leaves_other ne named

/-- An operation that moves nothing into place leaves the file of its own list alone. -/
theorem leaves_of_not_moved (h : Course store listId operation host outcome)
    (still : outcome.moved = false) (named : store.filePath listId = .ok path) :
    Leaves path host.disk outcome.disk := by
  cases h with
  | unopened failure entries failed => exact .refl path _
  | unchanged result entries opened idle honest => exact .refl path _
  | unsaved failure entries opened left undated => exact .refl path _
  | saved entries opened changed course => exact course.leaves_of_not_moved still named

/-- After a file was moved into place, the list in memory is what the file loads to. -/
theorem load_of_moved (h : Course store listId operation host outcome) (before : store.Ahead)
    (moved : outcome.moved = true) :
    ∃ path list bytes, store.filePath listId = .ok path ∧
      outcome.store.lists.find? listId = some list ∧ outcome.disk.read path = .ok bytes ∧
      TaskList.load store.spare bytes = .ok list := by
  cases h with
  | unopened failure entries failed => cases moved
  | unchanged result entries opened idle honest => cases moved
  | unsaved failure entries opened left undated => cases moved
  | @saved list after answer saving entries opened changed course =>
    obtain ⟨path, bytes, named, written, read⟩ := course.read_of_moved moved
    have ahead := (before.counterAhead opened).becomes (becomes_of_changed changed)
    refine ⟨path, after, bytes, named, ?_, read, TaskList.load_of_save store.spare ahead written⟩
    rw [find?_hold, if_pos rfl]

/-- A change that is answered was saved. -/
theorem moved_of_ok (h : Course store listId operation host outcome) (change : operation.isChange = true)
    {answer : operation.Answer} (ok : outcome.result = .ok answer) : outcome.moved = true := by
  cases h with
  | unopened failure entries failed => cases ok
  | unchanged result entries opened idle honest =>
    rw [TaskList.isChange_of_answered (honest answer ok)] at change
    cases change
  | unsaved failure entries opened left undated => cases ok
  | @saved list after answer saving entries opened changed course =>
    cases result : saving.result with
    | error failure =>
      rw [result] at ok
      cases ok
    | ok done => exact course.moved_of_ok result

end Course

end Taskboard.Store
