import Mathlib.Control.Monad.Basic
import Taskboard.Proofs.Json.Nesting
import Taskboard.Proofs.Store.Storable
import Taskboard.Proofs.Worker.Reliable

/-!
# Failures that escape

The tool lets out, and a pass is taken down by, the failures of the store that nobody expects. Once a list is in
memory, what a worker asks for fails in expected ways, and these it handles, or else because the list cannot be put
in its file.
-/

namespace Taskboard

/-- Whether a list is in memory behind a desk, and the clock shows what is needed. -/
structure Workspace.Serves (workspace : Workspace) (number : Nat) (listId : Text) : Prop where
  /-- The desk is there. -/
  present : number < workspace.desks.length
  /-- The clock shows what is needed. -/
  dated : Store.dated workspace.host
  /-- The list is in memory. -/
  held : ∃ list, (workspace.desk number).store.lists.find? listId = some list

/-- Whether, besides, the list is plain and the path of its file can be spelled. -/
structure Workspace.ServesPlain (workspace : Workspace) (number : Nat) (listId : Text) : Prop
    extends workspace.Serves number listId where
  /-- The list is plain. -/
  opensPlain : (workspace.desk number).store.OpensPlain listId workspace.host

namespace Workspace

variable {workspace : Workspace} {number : Nat} {listId : Text} {operation : Operation}
  {failure : Failure}

/-- Noting entries changes nothing about that. -/
theorem Serves.record (serves : workspace.Serves number listId) (entries : List Entry) :
    (workspace.record entries).Serves number listId := by
  refine ⟨?_, ?_, ?_⟩
  · rw [desks_record]
    exact serves.present
  · rw [host_record]
    exact serves.dated
  · rw [desk_congr (desks_record workspace entries)]
    exact serves.held

/-- Once a list was opened for an operation, it is in memory. -/
theorem serves_perform (present : number < workspace.desks.length) (dated : Store.dated workspace.host)
    {list : TaskList} (opened : (workspace.desk number).store.openedList listId workspace.host = .ok list)
    (operation : Operation) : (workspace.perform number listId operation).2.Serves number listId := by
  have carries := carries_perform present listId operation
  have course := Store.course_perform (workspace.desk number).store listId operation workspace.host
  have held := course.held opened
  refine ⟨carries.length ▸ present, ?_, ?_⟩
  · rw [carries.host]
    exact dated
  · rw [carries.store]
    exact ⟨_, held⟩

/-- Noting entries changes nothing about a plain list either. -/
theorem ServesPlain.record (serves : workspace.ServesPlain number listId) (entries : List Entry) :
    (workspace.record entries).ServesPlain number listId := by
  refine ⟨serves.toServes.record entries, ?_⟩
  rw [host_record, desk_congr (desks_record workspace entries)]
  exact serves.opensPlain

/-- Nor does an operation with plain texts once the list was opened. -/
theorem servesPlain_perform (present : number < workspace.desks.length) (dated : Store.dated workspace.host)
    (opensPlain : (workspace.desk number).store.OpensPlain listId workspace.host) {list : TaskList}
    (opened : (workspace.desk number).store.openedList listId workspace.host = .ok list)
    (given : operation.IsPlain) : (workspace.perform number listId operation).2.ServesPlain number listId := by
  refine ⟨serves_perform present dated opened operation, ?_⟩
  rw [(carries_perform present listId operation).store]
  exact opensPlain.perform given opened _

/-- Where an operation was answered, its list was opened. -/
theorem opened_of_answered (present : number < workspace.desks.length) {answer : operation.Answer}
    (answered : (workspace.perform number listId operation).1 = .ok answer) :
    ∃ list, (workspace.desk number).store.openedList listId workspace.host = .ok list := by
  have carries := carries_perform present listId operation
  have course := Store.course_perform (workspace.desk number).store listId operation workspace.host
  obtain ⟨list, opened, -⟩ := course.verdict_of_ok (carries.result.symm.trans answered)
  exact ⟨list, opened⟩

/-- An operation at a desk fails in a way that nobody expects exactly if it does so in the store. -/
theorem perform_unexpected_iff (present : number < workspace.desks.length)
    (dated : Store.dated workspace.host) :
    (workspace.perform number listId operation).1 = .error failure ∧ failure.isExpected = false ↔
      (workspace.desk number).store.Escapes listId operation workspace.host failure := by
  rw [(carries_perform present listId operation).result]
  exact Store.perform_unexpected_iff dated

end Workspace

/-- Whether a failure says that a list cannot be put in its file. -/
def Failure.isUnstorable : Failure → Bool
  | .unstorable _ => true
  | _ => false

/-- What a list in memory, and any operation on it but a new task, escapes by. -/
theorem Store.Escapes.isUnstorable {store : Store} {listId : Text} {operation : Operation} {host : Host}
    {failure : Failure} (escapes : store.Escapes listId operation host failure)
    (held : ∃ list, store.lists.find? listId = some list)
    (old : ∀ subject description, operation ≠ .create subject description) : failure.isUnstorable = true := by
  obtain ⟨list, held⟩ := held
  cases escapes with
  | unaddressable absent named refused uncoded => cases held.symm.trans absent
  | tooDeep absent named read refused => cases held.symm.trans absent
  | counterTooLong create opened long => exact absurd create (old _ _)
  | unstorable opened changed unputtable => rfl

/-- Whether a worker is interrupted by being cancelled, or by a list that cannot be put in its file. -/
def Interruption.isUsual : Interruption → Bool
  | .cancelled => true
  | .unexpected failure => failure.isUnstorable

namespace Worker

variable {Job Report Finding : Type} {perform : Job → Workspace → Report × Workspace}
  {worker : Worker Job Report Finding} {workspace : Workspace} {operation : Operation} {failure : Failure}

/-- No worker asks for a new task. -/
theorem Asks.ne_create (asks : worker.Asks operation) (subject description : Text) :
    operation ≠ .create subject description := by
  rintro rfl
  cases asks

/-- With a plain owner, whatever a worker asks for is plain. -/
theorem Asks.isPlain (asks : worker.Asks operation) (owned : worker.owner.IsPlain) : operation.IsPlain := by
  cases asks with
  | claim taskId => exact List.forall_mem_singleton.mpr owned
  | settle taskId status => exact fun text given => by cases given

/-- A list in memory stays there, and once it is, only a list that cannot be put in its file is met unexpectedly. -/
theorem grounds_serves (steady : worker.Steady perform (·.Serves worker.desk worker.listId)) :
    Grounds perform (·.Serves worker.desk worker.listId) (·.isUsual = true) worker where
  dated serves := serves.dated
  noted serves entry := serves.record [entry]
  asked serves _ _ := by
    obtain ⟨list, held⟩ := serves.held
    exact Workspace.serves_perform serves.present serves.dated (Store.openedList_of_held held) _
  fails serves _ asks _ failed unexpected := by
    have escapes := (Workspace.perform_unexpected_iff serves.present serves.dated).mp ⟨failed, unexpected⟩
    exact escapes.isUnstorable serves.held asks.ne_create
  steady := steady
  cancelled := rfl

/-- A plain list in memory stays there and plain if the owner is plain, and once it is, nothing is met unexpectedly. -/
theorem grounds_servesPlain (owned : worker.owner.IsPlain)
    (steady : worker.Steady perform (·.ServesPlain worker.desk worker.listId)) :
    Grounds perform (·.ServesPlain worker.desk worker.listId) (· = .cancelled) worker where
  dated serves := serves.dated
  noted serves entry := serves.record [entry]
  asked serves _ asks := by
    obtain ⟨list, held⟩ := serves.held
    exact Workspace.servesPlain_perform serves.present serves.dated serves.opensPlain
      (Store.openedList_of_held held) (asks.isPlain owned)
  fails serves _ asks _ failed unexpected := by
    have escapes := (Workspace.perform_unexpected_iff serves.present serves.dated).mp ⟨failed, unexpected⟩
    have unstorable := escapes.isUnstorable serves.held asks.ne_create
    rcases escapes.of_plain serves.opensPlain (asks.isPlain owned) with ⟨container, rfl⟩ | rfl
    · cases unstorable
    · cases unstorable
  steady := steady
  cancelled := rfl

/-- A pass is taken down by a failure, other than over a list that cannot be put in its file, exactly if the pending
tasks cannot be listed for it. -/
theorem pass_escapes_iff (steady : worker.Steady perform (·.Serves worker.desk worker.listId)) {limit : Int}
    (present : worker.desk < workspace.desks.length) (dated : Store.dated workspace.host)
    (limited : worker.batchLimit.toInt = .ok limit) (failure : Failure) :
    (Script.run perform worker.pass.run workspace).1 = .error (.unexpected failure) ∧ failure.isUnstorable = false ↔
      (workspace.desk worker.desk).store.Escapes worker.listId (.list (some .pending)) workspace.host failure := by
  -- A list that is only asked for need not be put in its file.
  have idle (escapes : (workspace.desk worker.desk).store.Escapes worker.listId (.list (some .pending))
      workspace.host failure) : failure.isUnstorable = false := by
    cases escapes with
    | unstorable opened changed unputtable => cases changed
    | _ => rfl
  rw [← and_iff_left_of_imp idle, ← Workspace.perform_unexpected_iff present dated]
  refine and_congr_left fun storable => ?_
  refine (grounds_serves steady).pass_unexpected_iff present dated limited ?unusual fun pending answered => ?begun
  case unusual =>
    rw [Interruption.isUsual, storable]
    exact Bool.false_ne_true
  case begun =>
    obtain ⟨list, opened⟩ := Workspace.opened_of_answered present answered
    exact Workspace.serves_perform present dated opened _

/-- If the list and the owner are plain and the path of the file can be spelled, a pass is taken down exactly if the
pending tasks cannot be listed. -/
theorem pass_escapes_iff_of_plain (owned : worker.owner.IsPlain)
    (steady : worker.Steady perform (·.ServesPlain worker.desk worker.listId)) {limit : Int}
    (present : worker.desk < workspace.desks.length) (dated : Store.dated workspace.host)
    (limited : worker.batchLimit.toInt = .ok limit)
    (opensPlain : (workspace.desk worker.desk).store.OpensPlain worker.listId workspace.host) (failure : Failure) :
    (Script.run perform worker.pass.run workspace).1 = .error (.unexpected failure) ↔
      (workspace.desk worker.desk).store.Escapes worker.listId (.list (some .pending)) workspace.host failure := by
  rw [← Workspace.perform_unexpected_iff present dated]
  refine (grounds_servesPlain owned steady).pass_unexpected_iff present dated limited (by simp)
    fun pending answered => ?_
  obtain ⟨list, opened⟩ := Workspace.opened_of_answered present answered
  exact Workspace.servesPlain_perform present dated opensPlain opened fun text given => by cases given

end Worker

namespace Workspace

/-- The failures that nobody expects and that yet escape. A call of the tool lets them out exactly as the store does:
when the disk cannot be asked for the file of the list, when that file is nested too deep, when the identifier of a
new task has too many digits, and when the changed list cannot be put in its file. A pass, if its greatest number of
tasks is one and its handlers leave the list in memory and the clock as it should be, is taken down when the pending
tasks cannot be listed for the first two of these reasons, and otherwise only by a list that cannot be put in its
file. No plain list is such a list: if the list and the owner are plain, the path of the file can be spelled, and the
handlers leave that so, a pass is taken down exactly when the pending tasks cannot be listed. -/
theorem escaping_failures {Job Report : Type} (perform : Job → Workspace → Report × Workspace) (number : Nat)
    (workspace : Workspace) (present : number < workspace.desks.length)
    (dated : Store.dated workspace.host) :
    (∀ parameters failure,
      (Script.run perform (Tool.execute number parameters).run workspace).1 = .error failure ∧
          failure.isExpected = false ↔
        ∃ listId operation,
          Tool.request? (workspace.desk number) parameters = some (listId, operation) ∧
          (workspace.desk number).store.Escapes listId operation workspace.host failure) ∧
    ∀ (Finding : Type) (worker : Worker Job Report Finding) (limit : Int) (failure : Failure),
      worker.desk = number → worker.batchLimit.toInt = .ok limit →
      (worker.Steady perform (·.Serves number worker.listId) →
        ((Script.run perform worker.pass.run workspace).1 = .error (.unexpected failure) ∧
            failure.isUnstorable = false ↔
          (workspace.desk number).store.Escapes worker.listId (.list (some .pending)) workspace.host failure)) ∧
      (worker.Steady perform (·.ServesPlain number worker.listId) → worker.owner.IsPlain →
        (workspace.desk number).store.OpensPlain worker.listId workspace.host →
        ((Script.run perform worker.pass.run workspace).1 = .error (.unexpected failure) ↔
          (workspace.desk number).store.Escapes worker.listId (.list (some .pending)) workspace.host failure)) := by
  constructor
  · intro parameters failure
    rw [Tool.execute_unexpected_iff present dated]
    refine exists_congr fun listId => exists_congr fun operation => and_congr_right fun _ => ?_
    exact Store.perform_unexpected_iff dated
  · rintro Finding worker limit failure rfl limited
    refine ⟨fun steady => ?_, fun steady owned opensPlain => ?_⟩
    · exact Worker.pass_escapes_iff steady present dated limited failure
    · exact Worker.pass_escapes_iff_of_plain owned steady present dated limited opensPlain failure

/-- A list whose counter has one digit too many. -/
def overlong : TaskList := ⟨Decimal.bound, .empty⟩

/-- Such a list in memory, and a file of brackets. -/
def beyondLimits : Workspace :=
  { Workspace.start (.ofInt 5)
      ⟨[(["d"], .folder), (["d", "tasks"], .folder),
        (["d", "tasks", "deep.json"], .file (List.replicate (0 + TaskList.depth + 1) 0x5B))]⟩ 0 false with
    desks := [⟨default, ⟨⟨.here, ["d", "tasks"]⟩, .ofList [("long", overlong)], 0⟩,
      "default", "default", "a"⟩] }

/-- A worker on a list, whose handler does nothing. -/
def clerk (listId : Text) : Worker Empty Unit Unit :=
  ⟨0, listId, "a", .whole 32, fun _ => .done (.returned, ())⟩

/-- A surrogate that stands for no byte in the name of a file. -/
def halved : Text := .ofList [CodePoint.ofNat 0xD800]

/-- A call of the tool at the first desk, with nobody else about. -/
def call (parameters : Tool.Parameters) : Except Failure ToolAnswer :=
  (Script.run (fun (job : Empty) _ => (nomatch job : Unit × Workspace)) (Tool.execute 0 parameters).run beyondLimits).1

/-- A pass of the worker on a list, with nobody else about. -/
def passOn (listId : Text) : Except Interruption (Tally Unit) :=
  (Script.run (fun (job : Empty) _ => (nomatch job : Unit × Workspace)) (clerk listId).pass.run beyondLimits).1

/-- The list in memory is plain, and so is the name of its file. -/
theorem opensPlain_overlong : (beyondLimits.desk 0).store.OpensPlain "long" beyondLimits.host := by
  refine ⟨fun path named => ?_, fun list opened => ?_⟩
  · have named' : (beyondLimits.desk 0).store.filePath "long" = .ok ⟨.here, ["d", "tasks", "long.json"]⟩ := rfl
    have fine : Disk.refusal? ⟨.here, ["d", "tasks", "long.json"]⟩ = none := by decide +kernel
    cases named'.symm.trans named
    exact Disk.spelled_iff.mpr fun trouble refused => by cases fine.symm.trans refused
  · have held : (beyondLimits.desk 0).store.openedList "long" beyondLimits.host = .ok overlong := rfl
    have same : overlong = list := Except.ok.inj (held.symm.trans opened)
    rw [← same]
    intro key task found
    have empty : overlong.find? key = none := rfl
    cases empty.symm.trans found

/-- The list in the file of brackets escapes, whatever is asked of it. -/
theorem escapes_deep (operation : Operation) :
    (beyondLimits.desk 0).store.Escapes "deep" operation beyondLimits.host (.nestedTooDeep .list) :=
  have named : (beyondLimits.desk 0).store.filePath "deep" = .ok ⟨.here, ["d", "tasks", "deep.json"]⟩ := rfl
  have read : beyondLimits.host.disk.read ⟨.here, ["d", "tasks", "deep.json"]⟩ =
      .ok (List.replicate (0 + TaskList.depth + 1) 0x5B) := rfl
  .tooDeep rfl named read (TaskList.load_nested 0)

/-- So does a new task for the list whose counter is too long. -/
theorem escapes_long :
    (beyondLimits.desk 0).store.Escapes "long" (.create "s" "") beyondLimits.host .counterTooLong := by
  have long : Decimal.tooLong overlong.nextId = true := by
    have counter : overlong.nextId = Decimal.bound := by rw [overlong]
    simp only [counter, Decimal.tooLong, Int.natAbs_natCast, Nat.le_refl, decide_true]
  have opened : (beyondLimits.desk 0).store.openedList "long" beyondLimits.host = .ok overlong := rfl
  exact .counterTooLong rfl opened long

/-- So does a list whose name the disk cannot be asked for. -/
theorem escapes_halved : ∃ fault,
    (beyondLimits.desk 0).store.Escapes halved (.list none) beyondLimits.host (.unaddressable fault) := by
  have refused : Disk.refusal? ⟨.here, ["d", "tasks", halved ++ ".json"]⟩ =
      some (.unencodable ⟨CodePoint.ofNat 0xD800, 8, 1⟩) := by decide +kernel
  exact ⟨_, .unaddressable rfl rfl refused rfl⟩

/-- So does a new task that no file can hold. -/
theorem escapes_new :
    (beyondLimits.desk 0).store.Escapes "new" (.create halved "") beyondLimits.host
      (.unstorable (.contents ⟨CodePoint.ofNat 0xD800, 77, 1⟩)) := by
  have opened : (beyondLimits.desk 0).store.openedList "new" beyondLimits.host = .ok .empty := rfl
  have named : (beyondLimits.desk 0).store.filePath "new" = .ok ⟨.here, ["d", "tasks", "new.json"]⟩ := rfl
  have changed : (TaskList.empty.attempt "new" beyondLimits.host.clock.second (.create halved "")).verdict =
      .changed (TaskList.empty.grown halved "" 5) (.fresh (Decimal.natText 1) halved "" 5) := by
    have shown : beyondLimits.host.clock.second = .ok 5 := rfl
    have short : Decimal.tooLong TaskList.empty.nextId = false := by decide +kernel
    rw [TaskList.attempt, TaskList.create_verdict, shown]
    dsimp only
    rw [short]
    rfl
  have goesOn : ∀ breakdown, beyondLimits.host.breakdown = some breakdown →
      breakdown.comesAfter (Store.openingSteps ⟨.here, ["d", "tasks", "new.json"]⟩ []) = true :=
    fun breakdown broken => by cases broken
  exact .unstorable opened changed (.contents named (by decide +kernel) goesOn (by decide +kernel))

/-- All four kinds escape from the tool, and the second one takes down a pass. Nothing takes down a pass over the plain
list in memory. -/
theorem escaping_failures_beyondLimits :
    (∃ fault, call [("action", .string "list"), ("list_id", .string halved)] = .error (.unaddressable fault)) ∧
      call [("action", .string "list"), ("list_id", .string "deep")] = .error (.nestedTooDeep .list) ∧
      call [("action", .string "create"), ("list_id", .string "long"), ("subject", .string "s")] =
        .error .counterTooLong ∧
      call [("action", .string "create"), ("list_id", .string "new"), ("subject", .string halved)] =
        .error (.unstorable (.contents ⟨CodePoint.ofNat 0xD800, 77, 1⟩)) ∧
      passOn "deep" = .error (.unexpected (.nestedTooDeep .list)) ∧
      ∀ failure, passOn "long" ≠ .error (.unexpected failure) := by
  have dated : Store.dated beyondLimits.host := ⟨⟨5, rfl⟩, fun keeps => by cases keeps⟩
  have held : (beyondLimits.desk 0).store.lists.find? "long" = some overlong := rfl
  have owned : ("a" : Text).IsPlain := Text.isPlain_ofString "a"
  obtain ⟨tool, taken⟩ := escaping_failures (fun (job : Empty) _ => (nomatch job : Unit × Workspace)) 0 beyondLimits
    (by decide) dated
  obtain ⟨fault, nameless⟩ := escapes_halved
  refine ⟨⟨fault, ((tool _ _).mpr ⟨halved, .list none, rfl, nameless⟩).1⟩,
    ((tool _ _).mpr ⟨"deep", .list none, rfl, escapes_deep _⟩).1,
    ((tool _ _).mpr ⟨"long", .create "s" "", rfl, escapes_long⟩).1,
    ((tool _ _).mpr ⟨"new", .create halved "", rfl, escapes_new⟩).1,
    (((taken Unit (clerk "deep") 32 _ rfl rfl).1 fun _ _ serves => serves).mpr (escapes_deep _)).1,
    fun failure down => ?_⟩
  have escapes := ((taken Unit (clerk "long") 32 failure rfl rfl).2 (fun _ _ serves => serves) owned
    opensPlain_overlong).mp down
  have unstorable := escapes.isUnstorable ⟨overlong, held⟩ fun subject description listing => by cases listing
  rcases escapes.of_plain opensPlain_overlong (fun text given => by cases given) with ⟨container, rfl⟩ | rfl
  · cases unstorable
  · cases unstorable

end Workspace

end Taskboard
