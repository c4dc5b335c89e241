import Taskboard.Proofs.Store.Course

/-!
# Runs of a store

A site is a store and the disk it works on. Three kinds of events happen to it: an operation is carried out,
at a moment with its own clock and possibly with a breakdown of the save; the store is lost and a new one
takes its place; somebody else changes the disk. Calls of several clients come one after the other, in any
order, since each holds the store alone.

A property of one list is kept by a run if the list in memory and the list in the file both have it before
and every event preserves it.
-/

namespace Taskboard

open Disk

/-- What an operation finds besides the store and the disk. -/
structure Moment where
  /-- The clock. -/
  clock : Clock
  /-- Where the save breaks off, if it does. -/
  breakdown : Option Disk.Breakdown
  /-- Whether a log is kept. -/
  keepsLog : Bool

/-- What a store works with at a moment. -/
def Moment.host (moment : Moment) (disk : Disk) : Host :=
  ⟨moment.clock, disk, moment.breakdown, moment.keepsLog⟩

/-- A moment at a whole second, at which no save breaks off and a log is kept. -/
def Moment.calm (second : Int) : Moment := ⟨.ofInt second, none, true⟩

/-- A store and the disk it works on. -/
structure Site where
  /-- The store. -/
  store : Store
  /-- The disk. -/
  disk : Disk

/-- What may happen to a site. -/
inductive Event where
  /-- An operation is carried out on a list. -/
  | call (moment : Moment) (listId : Text) (operation : Operation)
  /-- The store is lost and a new one takes its place. -/
  | restart
  /-- Somebody else changes the disk. -/
  | foreign (change : Disk → Disk)

/-- The bytes that a list is saved as; none if it cannot be saved. -/
def TaskList.saved (list : TaskList) : List UInt8 := list.save.toOption.getD []

namespace Site

/-- A new store within a data folder, whose callers leave room for `spare` containers more than a list has. -/
def opened (dataFolder : Path) (disk : Disk) (spare : Nat) : Site := ⟨.within dataFolder spare, disk⟩

/-- What an operation comes to. -/
def outcome (site : Site) (moment : Moment) (listId : Text) (operation : Operation) :
    Store.Outcome operation.Answer :=
  site.store.perform listId operation (moment.host site.disk)

/-- The site after an event. -/
def advance (site : Site) : Event → Site
  | .call moment listId operation =>
    ⟨(site.outcome moment listId operation).store, (site.outcome moment listId operation).disk⟩
  | .restart => ⟨⟨site.store.folder, .empty, site.store.spare⟩, site.disk⟩
  | .foreign change => ⟨site.store, change site.disk⟩

/-- The site after some events. -/
def run (site : Site) (events : List Event) : Site := events.foldl advance site

end Site

namespace Event

/-- Whether an event lets the file of a path be, unless it is a call: a change from outside leaves the
file alone. -/
def sparesFile (path : Path) : Event → Prop
  | .foreign change => ∀ disk, Leaves path disk (change disk)
  | _ => True

/-- Whether an event preserves a property of one list, unless it comes from outside: an operation on the
list makes no list without the property out of one that has it. -/
def preserves (listId : Text) (holds : TaskList → Prop) : Event → Prop
  | .call _ other operation =>
    other = listId → ∀ list now after, list.CounterAhead → holds list →
      TaskList.Becomes list now operation after → holds after
  | _ => True

end Event

namespace Site

variable {site : Site} {moment : Moment} {listId : Text} {operation : Operation} {path : Path}
  {event : Event} {events more : List Event} {holds : TaskList → Prop}

/-- Whether nobody else touches the file of a list in some events. -/
def undisturbed (site : Site) (listId : Text) (events : List Event) : Prop :=
  ∀ path, site.store.filePath listId = .ok path → ∀ event ∈ events, event.sparesFile path

/-- Every operation takes one of the courses. -/
theorem course (site : Site) (moment : Moment) (listId : Text) (operation : Operation) :
    Store.Course site.store listId operation (moment.host site.disk)
      (site.outcome moment listId operation) :=
  Store.course_perform site.store listId operation (moment.host site.disk)

/-- Events one after the other. -/
theorem run_append : site.run (events ++ more) = (site.run events).run more := List.foldl_append

/-- The folder of the store stays. -/
theorem folder_advance (site : Site) (event : Event) :
    (site.advance event).store.folder = site.store.folder := by
  cases event with
  | call moment listId operation => exact (site.course moment listId operation).folder
  | restart => rfl
  | foreign change => rfl

/-- The folder of the store stays in a run. -/
theorem folder_run (site : Site) (events : List Event) :
    (site.run events).store.folder = site.store.folder := by
  induction events generalizing site with
  | nil => rfl
  | cons event events ih => exact (ih (site.advance event)).trans (site.folder_advance event)

/-- The room for the reader stays. -/
theorem spare_advance (site : Site) (event : Event) : (site.advance event).store.spare = site.store.spare := by
  cases event with
  | call moment listId operation => exact (site.course moment listId operation).spare
  | restart => rfl
  | foreign change => rfl

/-- The room for the reader stays in a run. -/
theorem spare_run (site : Site) (events : List Event) : (site.run events).store.spare = site.store.spare := by
  induction events generalizing site with
  | nil => rfl
  | cons event events ih => exact (ih (site.advance event)).trans (site.spare_advance event)

/-- The path of a list depends on the folder alone. -/
theorem filePath_run (site : Site) (events : List Event) (listId : Text) :
    (site.run events).store.filePath listId = site.store.filePath listId := by
  rw [Store.filePath, Store.filePath, folder_run]

/-- Who touches the file of a list does not depend on what was done before. -/
theorem undisturbed.run (h : site.undisturbed listId events) (before : List Event) :
    (site.run before).undisturbed listId events := by
  intro path named
  rw [filePath_run] at named
  exact h path named

/-- A shorter run is not disturbed either. -/
theorem undisturbed.tail (h : site.undisturbed listId (event :: events)) :
    (site.advance event).undisturbed listId events := by
  intro path named event' mem
  rw [Store.filePath, folder_advance] at named
  exact h path named event' (List.mem_cons_of_mem _ mem)

/-- Counters in memory stay ahead. -/
theorem ahead_advance (h : site.store.Ahead) (event : Event) : (site.advance event).store.Ahead := by
  cases event with
  | call moment listId operation => exact (site.course moment listId operation).ahead h
  | restart => exact Store.ahead_empty site.store.folder site.store.spare
  | foreign change => exact h

/-- Counters in memory stay ahead in a run. -/
theorem ahead_run (h : site.store.Ahead) (events : List Event) : (site.run events).store.Ahead := by
  induction events generalizing site with
  | nil => exact h
  | cons event events ih => exact ih (ahead_advance h event)

/-- Counters in memory are ahead in every run of a new store. -/
theorem ahead_opened (dataFolder : Path) (disk : Disk) (spare : Nat) (events : List Event) :
    ((opened dataFolder disk spare).run events).store.Ahead :=
  ahead_run (Store.ahead_empty _ _) events

/-- If the list in memory and the list that is opened have a property that an operation preserves, so has the
list that the operation leaves in memory. -/
theorem memory_of_opens (ahead : site.store.Ahead)
    (memory : ∀ list, site.store.lists.find? listId = some list → holds list)
    (opens : ∀ list, site.store.openedList listId (moment.host site.disk) = .ok list → holds list)
    (preserves : (Event.call moment listId operation).preserves listId holds) :
    ∀ list, (site.outcome moment listId operation).store.lists.find? listId = some list →
      holds list := by
  have same (list : TaskList) : (site.store.hold listId list).lists.find? listId = some list := by
    rw [Store.find?_hold, if_pos rfl]
  have course := site.course moment listId operation
  intro list held
  generalize site.outcome moment listId operation = outcome at course held
  cases course with
  | unopened failure entries failed => exact memory list held
  | unchanged result entries opened idle honest =>
    cases (same _).symm.trans held
    exact opens _ opened
  | unsaved failure entries opened left undated =>
    cases (same _).symm.trans held
    exact preserves rfl _ _ _ (ahead.counterAhead opened) (opens _ opened)
      (TaskList.becomes_of_left? left)
  | saved entries opened changed saved =>
    cases (same _).symm.trans held
    exact preserves rfl _ _ _ (ahead.counterAhead opened) (opens _ opened)
      (Store.Course.becomes_of_changed changed)

/-- The list in memory and the list in the file both have a property, and there is a file. -/
structure Keeps (site : Site) (listId : Text) (path : Path) (holds : TaskList → Prop) : Prop where
  /-- The file of the list. -/
  named : site.store.filePath listId = .ok path
  /-- The list in memory, if there is one. -/
  memory : ∀ list, site.store.lists.find? listId = some list → holds list
  /-- The list in the file. -/
  file : ∃ bytes list, site.disk.read path = .ok bytes ∧
    TaskList.load site.store.spare bytes = .ok list ∧ holds list

namespace Keeps

/-- The list that is opened has the property. -/
theorem opens (h : site.Keeps listId path holds) {list : TaskList}
    (opened : site.store.openedList listId (moment.host site.disk) = .ok list) : holds list := by
  cases Store.opens_of_openedList opened with
  | inMemory held => exact h.memory list held
  | fetched absent named found =>
    obtain ⟨bytes, stored, read, loaded, holds⟩ := h.file
    cases h.named.symm.trans named
    rcases Store.fetch_ok found with ⟨missing, -⟩ | ⟨bytes', read', loaded'⟩
    · cases read.symm.trans missing
    · cases read.symm.trans read'
      cases loaded.symm.trans loaded'
      exact holds

/-- A change of the disk that leaves the file keeps what the file holds. -/
theorem file_of_leaves (h : site.Keeps listId path holds) {disk : Disk}
    (leaves : Leaves path site.disk disk) :
    ∃ bytes list, disk.read path = .ok bytes ∧ TaskList.load site.store.spare bytes = .ok list ∧ holds list := by
  obtain ⟨bytes, list, read, rest⟩ := h.file
  exact ⟨bytes, list, leaves.readable bytes read, rest⟩

/-- Every list that an operation leaves in memory under the identifier has the property. -/
theorem memory_call (h : site.Keeps listId path holds) (ahead : site.store.Ahead)
    (preserves : (Event.call moment listId operation).preserves listId holds) :
    ∀ list, (site.outcome moment listId operation).store.lists.find? listId = some list →
      holds list :=
  memory_of_opens ahead h.memory (fun _ => h.opens) preserves

/-- An event that preserves the property and spares the file keeps them. -/
theorem advance (h : site.Keeps listId path holds) (ahead : site.store.Ahead)
    (preserves : event.preserves listId holds) (spares : event.sparesFile path) :
    (site.advance event).Keeps listId path holds := by
  have named : (site.advance event).store.filePath listId = .ok path := by
    rw [← h.named, Store.filePath, Store.filePath, folder_advance]
  have room := site.spare_advance event
  cases event with
  | call moment other operation =>
    have course := site.course moment other operation
    by_cases same : listId = other
    · subst same
      refine ⟨named, h.memory_call ahead preserves, ?_⟩
      rw [room]
      cases moved : (site.outcome moment listId operation).moved with
      | false => exact h.file_of_leaves (course.leaves_of_not_moved moved h.named)
      | true =>
        obtain ⟨path', list, bytes, named', held, read, loaded⟩ := course.load_of_moved ahead moved
        cases h.named.symm.trans named'
        exact ⟨bytes, list, read, loaded, h.memory_call ahead preserves list held⟩
    · refine ⟨named, fun list held => h.memory list ?_, ?_⟩
      · rw [← course.find?_other same]
        exact held
      · rw [room]
        exact h.file_of_leaves (course.leaves_other same h.named)
  | restart =>
    refine ⟨named, fun list held => ?_, h.file⟩
    cases held
  | foreign change => exact ⟨named, h.memory, h.file_of_leaves (spares site.disk)⟩

/-- A run of such events keeps the property. -/
theorem run (h : site.Keeps listId path holds) (ahead : site.store.Ahead)
    (preserves : ∀ event ∈ events, event.preserves listId holds)
    (spares : ∀ event ∈ events, event.sparesFile path) :
    (site.run events).Keeps listId path holds := by
  induction events generalizing site with
  | nil => exact h
  | cons event events ih =>
    have first := h.advance ahead (preserves event List.mem_cons_self) (spares event List.mem_cons_self)
    exact ih first (ahead_advance ahead event)
      (fun event mem => preserves event (List.mem_cons_of_mem _ mem))
      fun event mem => spares event (List.mem_cons_of_mem _ mem)

end Keeps

/-- After a change that is answered, the list in memory is the one that the file loads to; a property that
it has is kept by both. -/
theorem keeps_of_answered (ahead : site.store.Ahead) {answer : operation.Answer}
    (change : operation.isChange = true)
    (answered : (site.outcome moment listId operation).result = .ok answer)
    (holds' : ∀ list, (site.outcome moment listId operation).store.lists.find? listId = some list →
      holds list) :
    ∃ path, (site.advance (.call moment listId operation)).Keeps listId path holds := by
  have course := site.course moment listId operation
  obtain ⟨path, list, bytes, named, held, read, loaded⟩ :=
    course.load_of_moved ahead (course.moved_of_ok change answered)
  have room := site.spare_advance (.call moment listId operation)
  refine ⟨path, ?_, holds', bytes, list, read, room ▸ loaded, holds' list held⟩
  rw [← named, Store.filePath, Store.filePath, folder_advance]

end Site

end Taskboard
