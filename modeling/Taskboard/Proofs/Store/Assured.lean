import Taskboard.Proofs.Store.Run

/-!
# What every opened list has

A property of a list is assured if the empty list has it, the list in memory has it, and so has what the file
loads to, should there be a file that loads. Then whatever list an operation works on has it. An operation that
preserves the property leaves it assured, however its save ends, and so do restarts, which fall back on the
file.
-/

namespace Taskboard

open Disk

namespace Site

variable {site : Site} {moment : Moment} {listId : Text} {operation : Operation} {path : Path}
  {event : Event} {events : List Event} {holds : TaskList → Prop} {list : TaskList}

/-- Every list that can be found under an identifier has a property. -/
structure Assures (site : Site) (listId : Text) (holds : TaskList → Prop) : Prop where
  /-- The list that stands for an absent file. -/
  empty : holds .empty
  /-- The list in memory, if there is one. -/
  memory : ∀ list, site.store.lists.find? listId = some list → holds list
  /-- The list in the file, if there is one. -/
  file : ∀ path bytes list, site.store.filePath listId = .ok path → site.disk.contents path = some bytes →
    TaskList.load site.store.spare bytes = .ok list → holds list

namespace Assures

/-- The list that is opened has the property. -/
theorem opens (h : site.Assures listId holds)
    (opened : site.store.openedList listId (moment.host site.disk) = .ok list) : holds list := by
  cases Store.opens_of_openedList opened with
  | inMemory held => exact h.memory list held
  | fetched absent named found =>
    rcases Store.fetch_ok found with ⟨-, rfl⟩ | ⟨bytes, read, loaded⟩
    · exact h.empty
    · exact h.file _ bytes list named (contents_of_read read) loaded

/-- An event that preserves the property and spares the file leaves it assured. -/
theorem advance (h : site.Assures listId holds) (ahead : site.store.Ahead)
    (preserves : event.preserves listId holds)
    (spares : ∀ path, site.store.filePath listId = .ok path → event.sparesFile path) :
    (site.advance event).Assures listId holds := by
  have room := site.spare_advance event
  have named {path : Path} (h : (site.advance event).store.filePath listId = .ok path) :
      site.store.filePath listId = .ok path := by
    rw [← h, Store.filePath, Store.filePath, folder_advance]
  have stays (leaves : ∀ path, site.store.filePath listId = .ok path →
      Leaves path site.disk (site.advance event).disk) (path : Path) (bytes : List UInt8) (list : TaskList)
      (at' : (site.advance event).store.filePath listId = .ok path)
      (stored : (site.advance event).disk.contents path = some bytes)
      (loaded : TaskList.load (site.advance event).store.spare bytes = .ok list) : holds list := by
    rw [(leaves path (named at')).contents] at stored
    rw [room] at loaded
    exact h.file path bytes list (named at') stored loaded
  cases event with
  | call moment other operation =>
    have course := site.course moment other operation
    by_cases same : listId = other
    · subst same
      have memory := memory_of_opens ahead h.memory (fun _ => h.opens) preserves
      refine ⟨h.empty, memory, ?_⟩
      cases moved : (site.outcome moment listId operation).moved with
      | false => exact stays fun path named => course.leaves_of_not_moved moved named
      | true =>
        intro path bytes list at' stored loaded
        obtain ⟨path', kept, bytes', named', held, read, loaded'⟩ := course.load_of_moved ahead moved
        cases (named at').symm.trans named'
        cases stored.symm.trans (contents_of_read read)
        rw [room, loaded'] at loaded
        cases loaded
        exact memory list held
    · refine ⟨h.empty, fun list held => h.memory list ?_, stays fun path named => course.leaves_other same named⟩
      rw [← course.find?_other same]
      exact held
  | restart =>
    refine ⟨h.empty, fun list held => ?_, stays fun path _ => .refl path site.disk⟩
    cases held
  | foreign change => exact ⟨h.empty, h.memory, stays fun path named => spares path named site.disk⟩

/-- A run of such events leaves it assured. -/
theorem run (h : site.Assures listId holds) (ahead : site.store.Ahead)
    (preserves : ∀ event ∈ events, event.preserves listId holds) (alone : site.undisturbed listId events) :
    (site.run events).Assures listId holds := by
  induction events generalizing site with
  | nil => exact h
  | cons event events ih =>
    have first := h.advance ahead (preserves event List.mem_cons_self)
      fun path named => alone path named event List.mem_cons_self
    exact ih first (ahead_advance ahead event)
      (fun event mem => preserves event (List.mem_cons_of_mem _ mem)) alone.tail

end Assures

end Site

end Taskboard
