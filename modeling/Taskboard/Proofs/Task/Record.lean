import Taskboard.Proofs.Json.Letters
import Taskboard.Proofs.Text.Utf8
import Taskboard.Task.Record

/-!
# Saved lists load again

The counter of a list is ahead of its keys if it is past the number of each of them. Whatever is loaded
has such a counter, and a list with such a counter that can be saved is loaded from its bytes as it
was: the counter, the order of the tasks, and every field of each of them.
-/

namespace Taskboard

namespace Keyed

variable {α : Type}

/-- Entries with different keys are stored as they are. -/
theorem entries_ofList {entries : List (Text × α)} (h : (entries.map Prod.fst).Nodup) :
    (ofList entries).entries = entries := by
  have grow (table : Keyed α) (more : List (Text × α))
      (distinct : ((table.entries ++ more).map Prod.fst).Nodup) :
      (more.foldl (fun table entry => table.put entry.1 entry.2) table).entries =
        table.entries ++ more := by
    induction more generalizing table with
    | nil => exact (List.append_nil _).symm
    | cons entry more ih =>
      have new : entry.1 ∉ table.entries.map Prod.fst := by
        rw [List.map_append, List.nodup_append] at distinct
        exact fun mem => distinct.2.2 _ mem _ List.mem_cons_self rfl
      have stored : (table.put entry.1 entry.2).entries = table.entries ++ [entry] :=
        Entries.put_of_notMem entry.2 new
      rw [List.foldl_cons, ih, stored, List.append_assoc, List.singleton_append]
      rwa [stored, List.append_assoc, List.singleton_append]
  exact grow empty entries h

end Keyed

namespace TaskList

/-- The counter is past the number of every key. -/
structure CounterAhead (list : TaskList) : Prop where
  /-- Counting starts at one. -/
  positive : 1 ≤ list.nextId
  /-- No key has the number of a task to come. -/
  past : ∀ key ∈ list.tasks.keys, Task.numericId key < list.nextId

/-- The counter of a list without tasks is ahead. -/
theorem counterAhead_empty : CounterAhead empty := ⟨Nat.le_refl 1, fun _ h => nomatch h⟩

/-- The greatest of some numbers is one of them, and none is greater. -/
theorem foldl_max_spec (first : Int) (rest : List Int) :
    rest.foldl max first ∈ first :: rest ∧ ∀ n ∈ first :: rest, n ≤ rest.foldl max first := by
  induction rest generalizing first with
  | nil => simp
  | cons second rest ih =>
    obtain ⟨mem, bound⟩ := ih (max first second)
    have top := bound (max first second) List.mem_cons_self
    rw [List.foldl_cons]
    constructor
    · rcases List.mem_cons.mp mem with e | mem
      · rw [e]
        rcases Int.le_total first second with h | h
        · simp [Int.max_eq_right h]
        · simp [Int.max_eq_left h]
      · exact List.mem_cons_of_mem _ (List.mem_cons_of_mem _ mem)
    · intro n hn
      rcases List.mem_cons.mp hn with rfl | hn
      · omega
      · rcases List.mem_cons.mp hn with rfl | hn
        · omega
        · exact bound n (List.mem_cons_of_mem _ hn)

/-- No key has a number above the highest. -/
theorem numericId_le_highest (list : TaskList) {key : Text} (h : key ∈ list.tasks.keys) :
    Task.numericId key ≤ list.highest := by
  have mem : Task.numericId key ∈ list.tasks.keys.map Task.numericId := List.mem_map_of_mem h
  unfold highest
  split
  · next none => rw [none] at mem; cases mem
  · next first rest numbers =>
    rw [numbers] at mem
    exact (foldl_max_spec first rest).2 _ mem

/-- A counter that is ahead is past the highest number. -/
theorem CounterAhead.highest_lt {list : TaskList} (h : list.CounterAhead) :
    list.highest < list.nextId := by
  have positive := h.positive
  unfold highest
  split
  · omega
  · next first rest numbers =>
    have mem := (foldl_max_spec first rest).1
    rw [← numbers] at mem
    obtain ⟨key, hk, number⟩ := List.mem_map.mp mem
    rw [← number]
    exact h.past key hk

/-- Every list that is read from a record has a counter that is ahead. -/
theorem counterAhead_of_ofJson {value : Json} {list : TaskList} (h : ofJson value = .ok list) :
    list.CounterAhead := by
  unfold ofJson at h
  split at h
  · next members =>
    split at h
    · next nextId records _ _ =>
      cases tasks : readTasks records with
      | error fault => simp [tasks, bind, Except.bind] at h
      | ok tasks' =>
        cases number : Record.integerField "next_id" nextId with
        | error fault => simp [tasks, number, bind, Except.bind] at h
        | ok n =>
          simp only [tasks, number, bind, Except.bind] at h
          split at h
          · cases h
          · next behind =>
            simp only [Bool.or_eq_true, decide_eq_true_eq, not_or, Int.not_lt, Int.not_le] at behind
            cases h
            refine ⟨by show 1 ≤ n.toNat; omega, fun key hk => ?_⟩
            have bound := numericId_le_highest ⟨n.toNat, Keyed.ofList tasks'⟩ hk
            show Task.numericId key < (n.toNat : Int)
            omega
    · cases h
    · cases h
  · cases h

/-- Every list that is loaded has a counter that is ahead. -/
theorem counterAhead_of_load {spare : Nat} {bytes : List UInt8} {list : TaskList}
    (h : load spare bytes = .ok list) :
    list.CounterAhead := by
  unfold load ofText at h
  split at h
  · cases h
  split at h
  · cases h
  split at h
  · cases h
  · next read =>
    cases h
    exact counterAhead_of_ofJson read

end TaskList

namespace Task

/-- Texts are read back from the list of them. -/
theorem strings?_list (texts : List Text) :
    (Json.list (texts.map Json.string)).strings? = some texts := by
  have each (items : List Text) : items.mapM (fun text => some text) = some items := by
    induction items with
    | nil => rfl
    | cons text items ih => rw [List.mapM_cons, ih]; rfl
  rw [Json.strings?, List.mapM_map]
  exact each texts

/-- The record of a task is read as the task. -/
theorem ofJson_toJson (task : Task) : ofJson task.toJson = .ok task := by
  have status : Record.statusField (.string task.status.word) = .ok task.status := by
    rw [Record.statusField, Json.string?, Option.bind_some, Status.ofWord?_word]
  have texts (field : Text) (items : List Text) :
      Record.textsField field (.list (items.map Json.string)) = .ok items := by
    rw [Record.textsField, strings?_list]
  obtain ⟨id, subject, description, standing, createdAt, updatedAt, owner, blocks, blockedBy⟩ := task
  cases owner <;>
    simp [toJson, ofJson, Record.requiredFields, Entries.find?, ofMembers, status, texts,
      Record.ownerField, Record.textField, Record.integerField, Json.string?, Json.int?, bind,
      Except.bind, pure, Except.pure]

end Task

namespace TaskList

/-- The records of tasks are read as the tasks. -/
theorem readTasks_toJson (entries : List (Text × Task)) :
    readTasks (entries.map fun entry => (entry.1, entry.2.toJson)) = .ok entries := by
  induction entries with
  | nil => rfl
  | cons entry entries ih =>
    rw [List.map_cons, readTasks, Task.ofJson_toJson, ih]
    rfl

/-- The record of a list whose counter is ahead is read as the list. -/
theorem ofJson_toJson {list : TaskList} (h : list.CounterAhead) : ofJson list.toJson = .ok list := by
  have tasks : Keyed.ofList list.tasks.entries = list.tasks :=
    Keyed.ext (Keyed.entries_ofList list.tasks.distinct)
  have positive := h.positive
  have past := h.highest_lt
  have same : (⟨(list.nextId : Int).toNat, list.tasks⟩ : TaskList) = list := rfl
  have ahead : ¬ ((list.nextId : Int) < 1 || (list.nextId : Int) ≤ list.highest : Bool) = true := by
    simp only [Bool.or_eq_true, decide_eq_true_eq]
    omega
  simp only [toJson, ofJson, Entries.find?, Text.ofString_inj, String.reduceEq, if_true, if_false, readTasks_toJson,
    Record.integerField, Json.int?, bind, Except.bind, tasks, same, if_neg ahead]

/-- No member of an object holds a long integer unless the object does. -/
theorem holdsLongInteger_of_mem {members : List (Text × Json)} (member : Text × Json)
    (h : Json.anyLongMember members = false) (mem : member ∈ members) :
    member.2.holdsLongInteger = false := by
  induction members with
  | nil => cases mem
  | cons first rest ih =>
    obtain ⟨name, value⟩ := first
    rw [Json.anyLongMember, Bool.or_eq_false_iff] at h
    rcases List.mem_cons.mp mem with rfl | mem
    · exact h.1
    · exact ih h.2 mem

/-- A task whose times can be written is written with nothing that could not be read back. -/
theorem readable_task {task : Task} {room : Nat} (h : task.toJson.holdsLongInteger = false) :
    Json.Readable (room + 2) task.toJson := by
  have texts (items : List Text) : Json.Readable (room + 1) (.list (items.map Json.string)) := by
    refine .list fun item hi => ?_
    obtain ⟨text, -, rfl⟩ := List.mem_map.mp hi
    exact .string text
  have created := holdsLongInteger_of_mem ("created_at", .int task.createdAt) h (by simp)
  have updated := holdsLongInteger_of_mem ("updated_at", .int task.updatedAt) h (by simp)
  refine .object (by simp) ?_
  simp only [List.forall_mem_cons, List.not_mem_nil, false_implies, implies_true, and_true]
  refine ⟨.string _, .string _, .string _, .string _, ?owner, texts _, texts _, .int created,
    .int updated⟩
  cases task.owner with
  | none => exact .null
  | some owner => exact .string owner

/-- A list is written with nothing that could not be read back, unless one of its numbers is too long. -/
theorem readable_toJson {list : TaskList} (room : Nat) (h : list.toJson.holdsLongInteger = false) :
    Json.Readable (room + 4) list.toJson := by
  have counter := holdsLongInteger_of_mem ("next_id", .int list.nextId) h (by simp)
  have tasks := holdsLongInteger_of_mem
    ("tasks", .object (list.tasks.entries.map fun entry => (entry.1, entry.2.toJson))) h (by simp)
  have keys : (list.tasks.entries.map fun entry => (entry.1, entry.2.toJson)).map Prod.fst =
      list.tasks.keys := by
    rw [List.map_map]
    rfl
  refine .object (by simp) ?_
  simp only [List.forall_mem_cons, List.not_mem_nil, false_implies, implies_true, and_true]
  refine ⟨.int counter, .object ?_ fun member hm => ?_⟩
  · rw [keys]
    exact list.tasks.distinct
  · have short := holdsLongInteger_of_mem member tasks hm
    obtain ⟨entry, -, rfl⟩ := List.mem_map.mp hm
    exact readable_task short

/-- What a list with its counter ahead is saved as is loaded as that list, however much room there is. -/
theorem load_of_save {list : TaskList} {bytes : List UInt8} (spare : Nat) (ahead : list.CounterAhead)
    (saved : list.save = .ok bytes) : load spare bytes = .ok list := by
  unfold save at saved
  split at saved
  · cases saved
  · next short =>
    have readable : Json.Readable (spare + depth) list.toJson :=
      readable_toJson spare (Bool.eq_false_iff.mpr short)
    have plain : .char '\r' ∉ list.toJson.written := Json.return_notMem_written readable
    cases encoded : Utf8.encode list.toJson.written with
    | error fault =>
      rw [encoded] at saved
      cases saved
    | ok bytes' =>
      rw [encoded] at saved
      cases saved
      rw [load, Utf8.decode_encode encoded]
      simp only
      rw [Text.unifyLineEnds_eq plain, ofText, Json.read_written readable]
      simp only [ofJson_toJson ahead]

end TaskList

end Taskboard
