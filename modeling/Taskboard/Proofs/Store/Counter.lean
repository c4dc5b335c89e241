import Taskboard.Proofs.Store.Decision
import Taskboard.Proofs.Store.Unexpected

/-!
# The counter and the numbers of keys

The text of a counter counts as the counter again, as far as it can be written, and whatever text is taken for a
number, the number can be written. So a counter past the number of a key is never written as that key, up to the last
counter that can be written at all. A counter beyond that hands out nothing: making a task fails, and the list stays
as it is.
-/

namespace Taskboard

/-- A text of at most the greatest number of digits is the text of a number that can be written. -/
theorem Decimal.length_natText_le_iff (n : Nat) : (natText n).length ≤ longest ↔ tooLong n = false := by
  rw [natText, Text.length, Text.toList_ofList]
  exact length_ofNat_le_iff n

namespace TaskList

variable {list counted : TaskList} {id : Text}

/-- The greatest number of a key can be written. -/
theorem highest_short (list : TaskList) : Decimal.tooLong list.highest = false := by
  rw [highest]
  split
  · decide +kernel
  · next first rest numbers =>
    have mem := (foldl_max_spec first rest).1
    rw [← numbers] at mem
    obtain ⟨key, -, number⟩ := List.mem_map.mp mem
    rw [← number]
    exact Task.numericId_short key

/-- The identifier that is handed out is the text of the counter, which could be written and moves on. -/
theorem allocate?_eq_some_iff : list.allocate? = some (id, counted) ↔
    Decimal.tooLong list.nextId = false ∧ id = Decimal.natText list.nextId ∧
      counted = { list with nextId := list.nextId + 1 } := by
  rw [allocate?]
  cases Decimal.tooLong list.nextId with
  | true => exact iff_of_false nofun nofun
  | false =>
    constructor
    · intro handed
      cases handed
      exact ⟨rfl, rfl, rfl⟩
    · rintro ⟨-, rfl, rfl⟩
      rfl

/-- Nothing is handed out by a counter that cannot be written. -/
theorem allocate?_eq_none_iff : list.allocate? = none ↔ Decimal.tooLong list.nextId = true := by
  rw [allocate?]
  cases Decimal.tooLong list.nextId with
  | true => exact iff_of_true rfl rfl
  | false => exact iff_of_false nofun nofun

/-- Without an identifier no task is made. -/
theorem create_of_tooLong (long : Decimal.tooLong list.nextId = true) (listId subject description : Text)
    (now : Except QuantityFault Int) :
    (list.create listId subject description now).verdict =
      .refused (match now with | .error fault => .quantity fault | .ok _ => .counterTooLong) := by
  rw [create_verdict, long]
  cases now <;> rfl

end TaskList

namespace Store

variable {store : Store} {listId : Text} {list : TaskList} {host : Host}

/-- Over a counter that cannot be written, making a task fails and leaves memory and disk as they are. -/
theorem perform_create_of_tooLong (long : Decimal.tooLong list.nextId = true)
    (opened : store.openedList listId host = .ok list) (subject description : Text) :
    let outcome := store.perform listId (.create subject description) host
    (dated host → outcome.result = .error .counterTooLong) ∧ (∃ failure, outcome.result = .error failure) ∧
      outcome.store.lists.find? listId = some list ∧ outcome.disk = host.disk := by
  intro outcome
  have course : Course store listId (.create subject description) host outcome :=
    store.course_perform listId (.create subject description) host
  have refused := TaskList.create_of_tooLong long listId subject description host.clock.second
  have idle : (list.attempt listId host.clock.second (.create subject description)).verdict.left? = none := by
    rw [TaskList.attempt, refused]
    rfl
  have held := course.held opened
  rw [idle] at held
  refine ⟨fun dated => ?_, ?_, held, course.disk_of_idle opened idle⟩
  · obtain ⟨second, shown⟩ := dated.1
    rw [result_perform dated, opened]
    dsimp only
    rw [TaskList.attempt, refused, shown]
  · cases result : outcome.result with
    | error failure => exact ⟨failure, rfl⟩
    | ok answer =>
      obtain ⟨list', after, opened', changed⟩ := course.changed_of_ok rfl result
      cases opened.symm.trans opened'
      cases refused.symm.trans changed

/-- A number that can be written is read back from its text, and every text counts as a number that can be written; so
does the greatest number of a key, which is named when a file is refused over its counter. An identifier that is handed
out by a counter past the number of a key is therefore not that key, however the key is written. A counter hands out
no identifier exactly if its text would be too long. Then a task cannot be made, and list and disk stay as they are. -/
theorem counter_reads_back :
    (∀ n : Nat, (Decimal.natText n).length ≤ Decimal.longest → Task.numericId (Decimal.natText n) = n) ∧
    (∀ id : Text, (Decimal.natText (Task.numericId id).natAbs).length ≤ Decimal.longest) ∧
    (∀ list : TaskList, (Decimal.natText list.highest.natAbs).length ≤ Decimal.longest) ∧
    (∀ (list : TaskList) (key id : Text) (counted : TaskList), Task.numericId key < list.nextId →
      list.allocate? = some (id, counted) → id = Decimal.natText list.nextId ∧ id ≠ key) ∧
    ∀ list : TaskList,
      (list.allocate? = none ↔ Decimal.longest < (Decimal.natText list.nextId).length) ∧
      (list.allocate? = none → ∀ (store : Store) (listId : Text) (host : Host),
        store.openedList listId host = .ok list → ∀ subject description,
          let outcome := store.perform listId (.create subject description) host
          (dated host → outcome.result = .error .counterTooLong) ∧ (∃ failure, outcome.result = .error failure) ∧
            outcome.store.lists.find? listId = some list ∧ outcome.disk = host.disk) := by
  have written (n : Int) (short : Decimal.tooLong n = false) :
      (Decimal.natText n.natAbs).length ≤ Decimal.longest := by
    rw [Decimal.length_natText_le_iff, Decimal.tooLong, Int.natAbs_natCast]
    exact short
  refine ⟨fun n short => Task.numericId_natText ((Decimal.length_natText_le_iff n).mp short),
    fun id => written _ (Task.numericId_short id), fun list => written _ list.highest_short,
    fun list key id counted past handed => ?_, fun list => ⟨?_, fun none store listId host opened => ?_⟩⟩
  · obtain ⟨short, rfl, -⟩ := TaskList.allocate?_eq_some_iff.mp handed
    refine ⟨rfl, fun same => ?_⟩
    rw [← same, Task.numericId_natText short] at past
    exact Int.lt_irrefl _ past
  · rw [TaskList.allocate?_eq_none_iff, ← Nat.not_le, Decimal.length_natText_le_iff, Bool.not_eq_false]
  · exact perform_create_of_tooLong (TaskList.allocate?_eq_none_iff.mp none) opened

/-- A list whose only key is written with a margin, a sign, a zero and a digit of another script. -/
def spelledKey : TaskList := ⟨43, .ofList [(" +04٢ ", .fresh "42" "s" "" 5)]⟩

/-- A list with the first counter that cannot be written. -/
def usedUp : TaskList := ⟨Decimal.bound, .empty⟩

/-- A store that holds this list. -/
def exhausted : Store := Store.hold ⟨⟨.here, ["d", "tasks"]⟩, .empty, 0⟩ "l" usedUp

/-- The counter that follows the number of such a key is not written as the key. The last counter that can be written
is read back, and after it no task can be made. -/
theorem counter_reads_back_limit :
    Task.numericId " +04٢ " = 42 ∧
      (∀ id after, spelledKey.allocate? = some (id, after) → id = "43" ∧ id ≠ " +04٢ ") ∧
      Task.numericId (Decimal.natText (Decimal.bound - 1)) = (Decimal.bound - 1 : Nat) ∧
      (exhausted.perform "l" (.create "s" "") ((Moment.calm 5).host .empty)).result = .error .counterTooLong ∧
      (exhausted.perform "l" (.create "s" "") ((Moment.calm 5).host .empty)).store.lists.find? "l" = some usedUp := by
  obtain ⟨back, -, -, new, ends⟩ := counter_reads_back
  have number : Task.numericId " +04٢ " = 42 := by decide +kernel
  have text : Decimal.natText spelledKey.nextId = "43" := by decide +kernel
  have last : Decimal.tooLong (Decimal.bound - 1 : Nat) = false := by decide +kernel
  have none : usedUp.allocate? = none := by decide +kernel
  have dated : dated ((Moment.calm 5).host .empty) := ⟨⟨5, rfl⟩, fun _ => ⟨_, rfl⟩⟩
  have held : exhausted.lists.find? "l" = some usedUp := by rw [exhausted, find?_hold, if_pos rfl]
  obtain ⟨fails, -, stays, -⟩ := (ends usedUp).2 none exhausted "l" _ (openedList_of_held held) "s" ""
  refine ⟨number, fun id after handed => ?_, back _ ((Decimal.length_natText_le_iff _).mpr last), fails dated, stays⟩
  have past : Task.numericId " +04٢ " < spelledKey.nextId := by
    rw [number]
    decide
  obtain ⟨rfl, ne⟩ := new spelledKey " +04٢ " id after past handed
  exact ⟨text, ne⟩

end Store

end Taskboard
