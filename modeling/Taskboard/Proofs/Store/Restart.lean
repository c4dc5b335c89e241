import Taskboard.Proofs.Store.Plan

/-!
# Restarts are not noticed

A store mirrors its disk if every list in memory is the one that its file loads to. While every save that is
tried succeeds, operations keep it so: the file of the changed list then loads to the changed list, and
all other files are read as before. On a store that mirrors its disk, an operation depends on the disk
alone, so a new store in its place gives the same replies and makes the same files.
-/

namespace Taskboard

open Disk

namespace Store

variable {store other : Store} {listId : Text} {list : TaskList} {operation : Operation} {host : Host}
  {path : Path}

/-- What the file of a list loads to. -/
def stored (store : Store) (listId : Text) (disk : Disk) : Except Failure TaskList :=
  match store.filePath listId with
  | .error failure => .error failure
  | .ok path => (fetch store.spare listId path disk).map Prod.fst

/-- Every list in memory is what its file loads to, and the name of the file is not too long. -/
def Mirrors (store : Store) (disk : Disk) : Prop :=
  ∀ listId list, store.lists.find? listId = some list →
    Utf8.size (listId ++ ".json") ≤ longestName ∧ store.stored listId disk = .ok list

/-- A store with nothing in memory mirrors every disk. -/
theorem mirrors_empty (folder : Path) (spare : Nat) (disk : Disk) : Mirrors ⟨folder, .empty, spare⟩ disk :=
  fun _ _ h => nomatch h

/-- A store that mirrors its disk opens what the file of a list loads to. -/
theorem Mirrors.openedList (mirrors : store.Mirrors host.disk) (dated : dated host) :
    store.openedList listId host = store.stored listId host.disk := by
  have noted := noting_of_dated dated
  rw [Store.openedList, lookUp]
  cases held : store.lists.find? listId with
  | some list =>
    rw [(mirrors listId list held).2]
    rfl
  | none =>
    rw [stored]
    cases store.filePath listId with
    | error failure => rfl
    | ok path =>
      simp only [keep]
      cases fetch store.spare listId path host.disk with
      | error failure => rfl
      | ok pair =>
        simp only [noted]
        rfl

/-- What an operation answers and does to the disk depends on the store through its folder and the opened
list alone. -/
theorem perform_congr (same : store.folder = other.folder)
    (opened : store.openedList listId host = other.openedList listId host) :
    (store.perform listId operation host).result = (other.perform listId operation host).result ∧
      (store.perform listId operation host).disk = (other.perform listId operation host).disk := by
  obtain ⟨plan, yields⟩ := perform_planned store.folder listId operation
    ⟨host.clock, host.breakdown, host.keepsLog⟩ (other.openedList listId host)
  obtain ⟨result, disk⟩ := yields store host.disk rfl opened
  obtain ⟨result', disk'⟩ := yields other host.disk same.symm rfl
  exact ⟨result.trans result'.symm, disk.trans disk'.symm⟩

/-- What the file of a list loads to depends on what is read from the file. -/
theorem stored_congr {before after : Disk} (named : store.filePath listId = .ok path)
    (same : after.read path = before.read path) :
    store.stored listId after = store.stored listId before := by
  rw [stored, stored, named]
  simp only [fetch, same]

/-- A list in memory that was moved into place is what its file loads to. -/
theorem stored_of_load {disk : Disk} {bytes : List UInt8} (named : store.filePath listId = .ok path)
    (read : disk.read path = .ok bytes) (loaded : TaskList.load store.spare bytes = .ok list) :
    store.stored listId disk = .ok list := by
  obtain ⟨entry, found⟩ : ∃ entry, fetch store.spare listId path disk = .ok (list, entry) :=
    fetch_of_load read loaded
  rw [stored, named]
  simp only [found]
  rfl

/-- A list that is stored has a file name. -/
theorem filePath_of_stored {disk : Disk} (h : store.stored listId disk = .ok list) :
    ∃ path, store.filePath listId = .ok path := by
  rw [stored] at h
  split at h
  · cases h
  · next path named => exact ⟨path, named⟩

/-- After a save, the files of other lists are read as before. -/
theorem read_other {disk after : Disk} {saved : Text} {path' : Path} {bytes : List UInt8}
    (tree : disk.IsTree) (direct : disk.Direct store.folder)
    (done : disk.performAll (saveSteps path bytes) = ⟨after, none⟩)
    (named : store.filePath saved = .ok path) (ne : listId ≠ saved)
    (named' : store.filePath listId = .ok path')
    (short : Utf8.size (listId ++ ".json") ≤ longestName) :
    after.read path' = disk.read path' := by
  rcases performAll_saveSteps done with ⟨stopped, -⟩ | ⟨-, middle, folders, -⟩
  · exact absurd rfl stopped
  · rw [filePath_eq named, Path.parent_child] at folders
    obtain ⟨target, clear⟩ := direct.clear_of_ensured tree (by rw [folders])
    have alike : Alike store.folder target (fileNames listId) disk disk :=
      .clear ⟨clear, clear, fun _ _ => rfl⟩
    have still := alike.aside (append_ne_dots (by decide)) (append_ne_dots (by decide))
      (fileNames_disjoint ne) (.moved bytes)
    rw [← saveSteps_child, ← filePath_eq named, done] at still
    rw [filePath_eq named']
    exact still.read_child List.mem_cons_self (append_ne_dots (by decide)) short

end Store

/-- Whether a call is made on a list with a short enough name while the clock shows a second for tasks and,
where a log is kept, a time for its entries; restarts may come at any point, and nobody else changes the
disk. -/
def Event.orderly : Event → Prop
  | .call moment listId _ =>
    Utf8.size (listId ++ ".json") ≤ longestName ∧
      (∃ second, moment.clock.second = .ok second) ∧
      (moment.keepsLog = true → ∃ time, moment.clock.logTime = .ok time)
  | .restart => True
  | .foreign _ => False

/-- Whether an event is a call. -/
def Event.isCall : Event → Bool
  | .call .. => true
  | _ => false

/-- What a call gives back. -/
structure Reply where
  /-- The operation that was called. -/
  operation : Operation
  /-- The answer, or why there is none. -/
  result : Except Failure operation.Answer

/-- Whether a call gives back that a save has failed. -/
def Reply.isFailedSave (reply : Reply) : Bool :=
  match reply.result with
  | .error failure => failure.isFailedSave
  | .ok _ => false

namespace Site

/-- What the calls of a run give back, in order. -/
def replies (site : Site) : List Event → List Reply
  | [] => []
  | .call moment listId operation :: rest =>
    ⟨operation, (site.outcome moment listId operation).result⟩ ::
      replies (site.advance (.call moment listId operation)) rest
  | event :: rest => replies (site.advance event) rest

/-- A site whose store mirrors its disk, which is a tree and which the folder of the store leads straight
down. -/
structure Coherent (site : Site) : Prop where
  /-- Everything on the disk stands in a folder. -/
  tree : site.disk.IsTree
  /-- The folder of the store is reached straight away. -/
  direct : site.disk.Direct site.store.folder
  /-- The lists in memory are what their files load to. -/
  mirrors : site.store.Mirrors site.disk
  /-- Counters in memory are ahead. -/
  ahead : site.store.Ahead

variable {site other : Site} {moment : Moment} {listId : Text} {operation : Operation}
  {events : List Event}

/-- A list that is kept in memory and is what its file loads to does not end the mirroring. -/
theorem mirrors_hold {store : Store} {disk : Disk} {list : TaskList} (mirrors : store.Mirrors disk)
    (short : Utf8.size (listId ++ ".json") ≤ longestName) (stored : store.stored listId disk = .ok list) :
    (store.hold listId list).Mirrors disk := by
  intro id kept held
  rw [Store.find?_hold] at held
  split at held
  · next same =>
    cases held
    subst same
    exact ⟨short, stored⟩
  · exact mirrors id kept held

/-- A call on a list with a short enough name, at a moment when the clock shows a time, keeps a site coherent
unless a save fails. -/
theorem Coherent.call (h : site.Coherent)
    (orderly : (Event.call moment listId operation).orderly)
    (saved : ∀ failure, (site.outcome moment listId operation).result = .error failure →
      failure.isFailedSave = false) :
    (site.advance (.call moment listId operation)).Coherent := by
  obtain ⟨short, dated⟩ := orderly
  have course := site.course moment listId operation
  have ahead := ahead_advance h.ahead (.call moment listId operation)
  have fetched : site.store.openedList listId (moment.host site.disk) =
      site.store.stored listId site.disk := h.mirrors.openedList dated
  rw [advance] at ahead ⊢
  generalize site.outcome moment listId operation = outcome at course saved ahead
  cases course with
  | unopened failure entries failed => exact h
  | unchanged result entries opened idle honest =>
    exact ⟨h.tree, h.direct, mirrors_hold h.mirrors short (fetched.symm.trans opened), ahead⟩
  | unsaved failure entries opened left undated => exact absurd dated undated
  | @saved list after answer saving entries opened changed course =>
    have stays : (site.store.hold listId after).lists.find? listId = some after := by
      rw [Store.find?_hold, if_pos rfl]
    cases course with
    | unasked failure why =>
      rcases why with unnamed | failed
      · obtain ⟨path, named⟩ := Store.filePath_of_stored (fetched.symm.trans opened)
        cases named.symm.trans unnamed
      · cases (saved failure rfl).symm.trans failed
    | stopped failure named spares failed => cases (saved failure rfl).symm.trans failed
    | @moved path bytes disk result named written done failed =>
      cases result with
      | error failure => cases (saved failure rfl).symm.trans (failed failure rfl)
      | ok done' =>
        rcases Store.performAll_saveSteps done with
          ⟨stopped, -⟩ | ⟨-, middle, folders, changes, read, tree⟩
        · exact absurd rfl stopped
        · have direct := h.direct.mono (Store.spares_saveSteps done).folders
          refine ⟨tree h.tree, direct, ?_, ahead⟩
          intro id kept held
          by_cases same : id = listId
          · subst same
            cases stays.symm.trans held
            have loaded := TaskList.load_of_save site.store.spare (ahead id after stays) written
            exact ⟨short, Store.stored_of_load named read loaded⟩
          · rw [Store.find?_hold, if_neg same] at held
            obtain ⟨shortName, stored⟩ := h.mirrors id kept held
            obtain ⟨path', named'⟩ := Store.filePath_of_stored stored
            have readSame := Store.read_other h.tree h.direct done named same named' shortName
            exact ⟨shortName, (Store.stored_congr named' readSame).trans stored⟩

/-- A restart keeps a site coherent. -/
theorem Coherent.restart (h : site.Coherent) : (site.advance .restart).Coherent :=
  ⟨h.tree, h.direct, Store.mirrors_empty _ _ _, Store.ahead_empty _ _⟩

/-- Coherent sites with one disk and one folder answer a call alike and do the same to the disk. -/
theorem Coherent.call_congr (h : site.Coherent) (h' : other.Coherent) (disk : site.disk = other.disk)
    (folder : site.store.folder = other.store.folder) (room : site.store.spare = other.store.spare)
    (listId : Text) (operation : Operation) (dated : Store.dated (moment.host other.disk)) :
    (site.outcome moment listId operation).result = (other.outcome moment listId operation).result ∧
      (site.outcome moment listId operation).disk = (other.outcome moment listId operation).disk := by
  have opened : site.store.openedList listId (moment.host other.disk) =
      other.store.openedList listId (moment.host other.disk) := by
    have mirrors := h.mirrors
    rw [disk] at mirrors
    have first : site.store.openedList listId (moment.host other.disk) =
        site.store.stored listId other.disk := mirrors.openedList dated
    have second : other.store.openedList listId (moment.host other.disk) =
        other.store.stored listId other.disk := h'.mirrors.openedList dated
    rw [first, second, Store.stored, Store.stored, Store.filePath, Store.filePath, folder, room]
  rw [outcome, outcome, disk]
  exact Store.perform_congr folder opened

/-- The calls of a run on a coherent site are answered as they are without the restarts, and leave the same
disk. -/
theorem replies_of_coherent (h : site.Coherent) (h' : other.Coherent) (disk : site.disk = other.disk)
    (folder : site.store.folder = other.store.folder) (room : site.store.spare = other.store.spare)
    (orderly : ∀ event ∈ events, event.orderly)
    (saved : ∀ reply ∈ other.replies (events.filter Event.isCall), reply.isFailedSave = false) :
    site.replies events = other.replies (events.filter Event.isCall) ∧
      (site.run events).disk = (other.run (events.filter Event.isCall)).disk := by
  induction events generalizing site other with
  | nil => exact ⟨rfl, disk⟩
  | cons event events ih =>
    have orderly' : ∀ event ∈ events, event.orderly :=
      fun event mem => orderly event (List.mem_cons_of_mem _ mem)
    cases event with
    | foreign change => exact (orderly (.foreign change) List.mem_cons_self).elim
    | restart => exact ih h.restart h' disk folder room orderly' saved
    | call moment listId operation =>
      have proper := orderly (.call moment listId operation) List.mem_cons_self
      have ⟨short, dated⟩ := proper
      have ⟨result, disks⟩ := h.call_congr h' disk folder room listId operation dated
      have calls : (Event.call moment listId operation :: events).filter Event.isCall =
          .call moment listId operation :: events.filter Event.isCall := rfl
      rw [calls] at saved ⊢
      rw [replies] at saved
      have savedFirst : ∀ failure, (other.outcome moment listId operation).result = .error failure →
          failure.isFailedSave = false := by
        intro failure failed
        have first := saved _ List.mem_cons_self
        rw [Reply.isFailedSave, failed] at first
        exact first
      have savedHere : ∀ failure, (site.outcome moment listId operation).result = .error failure →
          failure.isFailedSave = false := by
        rw [result]
        exact savedFirst
      have folders : (site.advance (.call moment listId operation)).store.folder =
          (other.advance (.call moment listId operation)).store.folder := by
        rw [folder_advance, folder_advance, folder]
      have rooms : (site.advance (.call moment listId operation)).store.spare =
          (other.advance (.call moment listId operation)).store.spare := by
        rw [spare_advance, spare_advance, room]
      obtain ⟨rest, last⟩ := ih (h.call proper savedHere) (h'.call proper savedFirst) disks folders rooms
        orderly'
        fun reply mem => saved reply (List.mem_cons_of_mem _ mem)
      refine ⟨?_, last⟩
      rw [replies, replies, rest, result]

/-- Restarts are not noticed: for every tree of files, whatever the files of lists are, and every run of
calls, made while the clock shows a time on lists with short enough names, with restarts at any points, all
calls give back the same and the disk is the same in the end as if one store had served all of them, as
long as no save fails there. The path to the folder of the lists leads straight down: what it goes through is
there, or lies above its end. -/
theorem restart_transparent (dataFolder : Path) (disk : Disk) (spare : Nat) (events : List Event)
    (tree : disk.IsTree) (direct : disk.Direct (dataFolder.child "tasks"))
    (orderly : ∀ event ∈ events, event.orderly)
    (saved : ∀ reply ∈ (opened dataFolder disk spare).replies (events.filter Event.isCall),
      reply.isFailedSave = false) :
    (opened dataFolder disk spare).replies events =
        (opened dataFolder disk spare).replies (events.filter Event.isCall) ∧
      ((opened dataFolder disk spare).run events).disk =
        ((opened dataFolder disk spare).run (events.filter Event.isCall)).disk := by
  have coherent : (opened dataFolder disk spare).Coherent :=
    ⟨tree, direct, Store.mirrors_empty _ _ _, Store.ahead_empty _ _⟩
  exact replies_of_coherent coherent coherent rfl rfl rfl orderly saved

/-- A call at a whole second that a log can show is orderly if the file name of its list is short enough. -/
theorem orderly_calm (second : Int) (listId : Text) (operation : Operation)
    (short : Utf8.size (listId ++ ".json") ≤ longestName)
    (shown : (Clock.ofInt second).logTime = .ok (.ofInt second)) :
    (Event.call (.calm second) listId operation).orderly :=
  ⟨short, ⟨second, rfl⟩, fun _ => ⟨_, shown⟩⟩

/-- A data folder with one file, which is not a list. -/
def corruptDisk : Disk :=
  ((empty.put ["d"] .folder).put ["d", "tasks"] .folder).put ["d", "tasks", "k.json"] (.file [0x78])

/-- A run with two restarts over a list that is made in it and a file that is not a list. -/
def restarted : List Event :=
  [.call (.calm 5) "l" (.create "s" ""), .restart, .call (.calm 6) "k" (.get "1"),
    .call (.calm 7) "l" (.claim "1" "a"), .restart, .call (.calm 8) "l" (.get "1")]

/-- Neither restart of that run is noticed. -/
theorem restart_transparent_corrupt :
    corruptDisk.IsTree ∧ corruptDisk.Direct ⟨.here, ["d", "tasks"]⟩ ∧
      (∀ event ∈ restarted, event.orderly) ∧
      (∀ reply ∈ (opened ⟨.here, ["d"]⟩ corruptDisk 0).replies (restarted.filter Event.isCall),
        reply.isFailedSave = false) ∧
      (opened ⟨.here, ["d"]⟩ corruptDisk 0).replies restarted =
        (opened ⟨.here, ["d"]⟩ corruptDisk 0).replies (restarted.filter Event.isCall) := by
  have tree : corruptDisk.IsTree := by
    have first : (empty.put ["d"] .folder).IsTree :=
      isTree_empty.put_child [] "d" .folder (by decide) (by decide)
    have second := first.put_child ["d"] "tasks" .folder (by decide) (by decide)
    exact second.put_child ["d", "tasks"] "k.json" (.file [0x78]) (by decide) (by decide)
  have folder : corruptDisk.isFolder ⟨.here, ["d"]⟩ = true := by decide
  have direct : corruptDisk.Direct ⟨.here, ["d", "tasks"]⟩ := direct_child (.inl folder) (by decide)
  have orderly : ∀ event ∈ restarted, event.orderly := by
    simp only [restarted, List.forall_mem_cons, List.not_mem_nil, false_implies, implies_true, and_true]
    exact ⟨orderly_calm 5 "l" _ (by decide) rfl, trivial, orderly_calm 6 "k" _ (by decide) rfl,
      orderly_calm 7 "l" _ (by decide) rfl, trivial, orderly_calm 8 "l" _ (by decide) rfl⟩
  have saved : ∀ reply ∈ (opened ⟨.here, ["d"]⟩ corruptDisk 0).replies (restarted.filter Event.isCall),
      reply.isFailedSave = false := by decide +kernel
  exact ⟨tree, direct, orderly, saved,
    (restart_transparent ⟨.here, ["d"]⟩ corruptDisk 0 restarted tree direct orderly saved).1⟩

/-- A data folder whose path leads through a folder that is not there and up again. -/
def detour : Path := ⟨.here, ["x", "y", "..", "z"]⟩

/-- A disk on which the detour would lead to a file that is not a list. -/
def detourDisk : Disk :=
  (((empty.put ["x"] .folder).put ["x", "z"] .folder).put ["x", "z", "tasks"] .folder).put
    ["x", "z", "tasks", "b.json"] (.file [0x78])

/-- Everything on that disk stands in a folder. -/
theorem isTree_detourDisk : detourDisk.IsTree := by
  have first : (empty.put ["x"] .folder).IsTree := isTree_empty.put_child [] "x" .folder (by decide) (by decide)
  have second := first.put_child ["x"] "z" .folder (by decide) (by decide)
  have third := second.put_child ["x", "z"] "tasks" .folder (by decide) (by decide)
  exact third.put_child ["x", "z", "tasks"] "b.json" (.file [0x78]) (by decide) (by decide)

/-- A run in which a list is asked for before the missing folder is made by the save of another list, and
once more after a restart. -/
def detoured : List Event :=
  [.call (.calm 5) "b" (.get "1"), .call (.calm 5) "a" (.create "s" ""), .restart,
    .call (.calm 6) "b" (.get "1")]

/-- On the detour a restart is noticed although every save succeeds: the store that has found no file keeps
an empty list in memory, and the new one reads the file. -/
theorem restart_visible :
    let site := opened detour detourDisk 0
    detourDisk.IsTree ∧ (∀ event ∈ detoured, event.orderly) ∧
      (∀ reply ∈ site.replies (detoured.filter Event.isCall), reply.isFailedSave = false) ∧
      (∀ reply ∈ site.replies detoured, reply.isFailedSave = false) ∧
      site.replies detoured ≠ site.replies (detoured.filter Event.isCall) := by
  intro site
  have orderly : ∀ event ∈ detoured, event.orderly := by
    simp only [detoured, List.forall_mem_cons, List.not_mem_nil, false_implies, implies_true, and_true]
    exact ⟨orderly_calm 5 "b" _ (by decide) rfl, orderly_calm 5 "a" _ (by decide) rfl, trivial,
      orderly_calm 6 "b" _ (by decide) rfl⟩
  have saved : ∀ reply ∈ site.replies (detoured.filter Event.isCall), reply.isFailedSave = false := by
    decide +kernel
  have savedToo : ∀ reply ∈ site.replies detoured, reply.isFailedSave = false := by decide +kernel
  have answered : (site.replies (detoured.filter Event.isCall)).map (·.result.isOk) = [true, true, true] := by
    decide +kernel
  have refused : (site.replies detoured).map (·.result.isOk) = [true, true, false] := by decide +kernel
  refine ⟨isTree_detourDisk, orderly, saved, savedToo, ?_⟩
  intro same
  rw [same, answered] at refused
  cases refused

end Site

end Taskboard
