import Mathlib.Data.List.Induction
import Taskboard.Proofs.Worker.Ledger

/-!
# Workers that share a list

However the steps of the workers of a crew interleave, with each other, with what handlers do and with
calls of others that set no status: no two handlers run for one task at a time, no task is returned as
completed twice, and a handler runs only after its worker claimed the task, when all that the task waits for
was completed, as it stays. It does not matter which saves fail, since the list in memory is what the next
operation works on.
-/

namespace Taskboard

namespace Crew

variable {Job Report Finding : Type}

/-- Whether what is left for a worker at a stage is what it may do from where it stands. -/
def Abides (crew : Crew Job Report Finding) (number : Nat) (standing : Standing) :
    Stage Job Report Finding → Prop
  | .off => standing = .fresh
  | .passing script => crew.Obeys number standing script
  | .handling task left next =>
    standing.phase = .holding task ∧ crew.Tame left ∧
      ∀ report, crew.Obeys number ⟨.handled task, standing.finished⟩ (next [report])

/-- Whether the next step of a worker is a claim of a task that returns the task. -/
def Wins (crew : Crew Job Report Finding) (shift : Shift Job Report Finding) (number : Nat)
    (task : Task) : Prop :=
  ∃ next, shift.stages number =
      .passing (.ask crew.desk crew.listId (.claim task.id (crew.owner number)) next) ∧
    (shift.workspace.perform crew.desk crew.listId (.claim task.id (crew.owner number))).1 = .ok task

/-- A shift in which all workers do what they may do, and the ledger is right. -/
structure Orderly (crew : Crew Job Report Finding) (shift : Shift Job Report Finding)
    (standings : Nat → Standing) : Prop where
  /-- The crew can work on its list. -/
  ready : crew.Ready shift.workspace
  /-- Every worker does what it may do. -/
  abides : ∀ number, crew.Abides number (standings number) (shift.stages number)
  /-- The ledger is right. -/
  ledger : crew.Ledger shift.workspace shift.returned standings

section

variable {crew : Crew Job Report Finding} {shift : Shift Job Report Finding}
  {standings : Nat → Standing} {number : Nat} {workspace : Workspace}

/-- A crew that is ready and has done nothing yet is orderly. -/
theorem orderly_idle (ready : crew.Ready workspace) :
    crew.Orderly (.idle workspace) fun _ => .fresh := by
  have booked : crew.Booked workspace [] .fresh :=
    ⟨fun _ inHand => (nomatch inHand), fun _ mem => absurd mem List.not_mem_nil, .nil⟩
  exact ⟨ready, fun _ => rfl, fun _ => booked, fun _ _ _ => .fresh .fresh⟩

/-- A worker has a task at its handler, or is about to, exactly if it holds the task. -/
theorem Orderly.assigned_iff (orderly : crew.Orderly shift standings) {task : Task} :
    (shift.stages number).assigned? = some task ↔ (standings number).phase = .holding task := by
  have abides := orderly.abides number
  cases stage : shift.stages number with
  | off =>
    rw [stage] at abides
    have fresh : standings number = .fresh := abides
    rw [fresh]
    exact ⟨nofun, nofun⟩
  | handling other left next =>
    rw [stage] at abides
    rw [abides.1]
    simp [Stage.assigned?]
  | passing script =>
    rw [stage] at abides
    cases script with
    | done result =>
      refine ⟨nofun, fun holding => ?_⟩
      cases result with
      | ok tally =>
        have ended : standings number = ⟨.free, tally.completed⟩ := abides
        rw [ended] at holding
        cases holding
      | error interruption => exact absurd holding (abides task)
    | instant effect next => exact ⟨nofun, fun holding => absurd holding (abides.1 task)⟩
    | pause next => exact abides.elim
    | handOut jobs next =>
      obtain ⟨other, rfl, holding, -⟩ := abides
      rw [holding]
      simp [Stage.assigned?]
    | ask desk listId operation next =>
      obtain ⟨-, -, may, -⟩ := abides
      exact ⟨nofun, fun holding => absurd holding (may.not_holding task)⟩

end

/-- What a move leads to. -/
structure Leads [Inhabited Finding] (crew : Crew Job Report Finding) (shift : Shift Job Report Finding)
    (move : Move Report) (standings reached : Nat → Standing) : Prop where
  /-- The shift stays orderly. -/
  orderly : crew.Orderly (crew.act shift move) reached
  /-- What is completed stays completed. -/
  completed : ∀ key, crew.Stands shift.workspace key .completed →
    crew.Stands (crew.act shift move).workspace key .completed
  /-- Only a claim that is won puts a task into a worker's hands. -/
  won : ∀ number task, (reached number).phase = .holding task → (standings number).phase = .holding task ∨
    (∃ reports, move = .go number reports) ∧ crew.Wins shift number task

namespace Orderly

variable [Inhabited Finding] {crew : Crew Job Report Finding} {shift : Shift Job Report Finding}
  {standings : Nat → Standing} {number : Nat} {move : Move Report} {standing : Standing}
  {stage : Stage Job Report Finding} {workspace : Workspace} {returned : List (List Text)}

/-- A step of a worker that keeps the ledger right leads on. -/
theorem leads (orderly : crew.Orderly shift standings)
    (does : crew.act shift move =
      { shift.put number stage with workspace := workspace, returned := returned })
    (ready : crew.Ready workspace) (abides : crew.Abides number standing stage)
    (ledger : crew.Ledger workspace returned (Function.update standings number standing))
    (completed : ∀ key, crew.Stands shift.workspace key .completed → crew.Stands workspace key .completed)
    (won : ∀ task, standing.phase = .holding task → (standings number).phase = .holding task ∨
      (∃ reports, move = .go number reports) ∧ crew.Wins shift number task) :
    crew.Leads shift move standings (Function.update standings number standing) := by
  refine ⟨?_, by rwa [does], ?_⟩
  · rw [does]
    refine ⟨ready, fun other => ?_, ledger⟩
    show crew.Abides other (Function.update standings number standing other)
      (Function.update shift.stages number stage other)
    by_cases same : other = number
    · subst same
      rwa [Function.update_self, Function.update_self]
    · rw [Function.update_of_ne same, Function.update_of_ne same]
      exact orderly.abides other
  · intro other task holding
    by_cases same : other = number
    · subst same
      rw [Function.update_self] at holding
      exact won task holding
    · rw [Function.update_of_ne same] at holding
      exact .inl holding

/-- So does a step at which the worker keeps what it has and nothing moves that is not pending. -/
theorem leads_steady (orderly : crew.Orderly shift standings)
    (does : crew.act shift move = { shift.put number stage with workspace })
    (ready : crew.Ready workspace) (abides : crew.Abides number standing stage)
    (stays : ∀ key status, status ≠ .pending → crew.Stands shift.workspace key status →
      crew.Stands workspace key status)
    (inHand : standing.phase.task? = (standings number).phase.task?)
    (finished : standing.finished = (standings number).finished)
    (held : ∀ task, standing.phase = .holding task → (standings number).phase = .holding task) :
    crew.Leads shift move standings (Function.update standings number standing) :=
  orderly.leads does ready abides (orderly.ledger.keep stays inHand finished)
    (fun key => stays key .completed (by decide)) fun task holding => .inl (held task holding)

/-- So does what others do, as long as nothing moves that is not pending. -/
theorem leads_others (orderly : crew.Orderly shift standings)
    (does : crew.act shift move = { shift with workspace }) (ready : crew.Ready workspace)
    (stays : ∀ key status, status ≠ .pending → crew.Stands shift.workspace key status →
      crew.Stands workspace key status) : crew.Leads shift move standings standings := by
  refine ⟨?_, ?_, fun _ _ => .inl⟩
  · rw [does]
    exact ⟨ready, orderly.abides, orderly.ledger.stay stays⟩
  · rw [does]
    exact fun key => stays key .completed (by decide)

/-- An answer of the store leads on. -/
theorem leads_ask (orderly : crew.Orderly shift standings) {operation : Operation}
    {next : Except Failure operation.Answer → Passing Finding}
    (asks : shift.stages number = .passing (.ask crew.desk crew.listId operation next))
    (may : (standings number).May (crew.owner number) operation)
    (obeys : ∀ answer, crew.Obeys number ((standings number).after operation answer) (next answer))
    (reports : List Report) :
    ∃ reached, crew.Leads shift (.go number reports) standings reached := by
  have does : crew.act shift (.go number reports) =
      { shift.put number (.passing (next (shift.workspace.perform crew.desk crew.listId operation).1)) with
        workspace := (shift.workspace.perform crew.desk crew.listId operation).2 } := by
    rw [act, go, asks]
    rfl
  have ready := orderly.ready.perform crew.listId operation
  have abides := obeys (shift.workspace.perform crew.desk crew.listId operation).1
  have still (key : Text) (status : Status) (unmoved : ¬ operation.moves key status)
      (stands : crew.Stands shift.workspace key status) :
      crew.Stands (shift.workspace.perform crew.desk crew.listId operation).2 key status :=
    stands.perform orderly.ready fun _ => unmoved
  cases operation with
  | create subject description => exact may.elim
  | get taskId => exact may.elim
  | list status =>
    exact ⟨_, orderly.leads_steady does ready abides (fun key status _ => still key status id) rfl rfl
      fun _ h => h⟩
  | claim taskId owner =>
    obtain ⟨free, rfl⟩ := may
    have stays (key : Text) (status : Status) (ne : status ≠ .pending) :=
      still key status fun moves => ne moves.2
    cases answered : (shift.workspace.perform crew.desk crew.listId
        (.claim taskId (crew.owner number))).1 with
    | error failure =>
      rw [answered] at does abides
      exact ⟨_, orderly.leads_steady does ready abides stays rfl rfl fun _ h => h⟩
    | ok task =>
      rw [answered] at does abides
      change Task at task
      obtain ⟨list, won⟩ := won_of_claim orderly.ready answered
      obtain rfl := won.id
      have untaken : ¬ crew.Stands shift.workspace task.id .inProgress := fun busy => by
        have same := (busy.opened won.opened).unique won.pending
        cases same
      refine ⟨_, orderly.leads does ready abides (orderly.ledger.take stays untaken won.claimed)
        (fun key => stays key .completed (by decide)) fun task' holding => .inr ⟨⟨reports, rfl⟩, ?_⟩⟩
      cases holding
      exact ⟨next, asks, answered⟩
  | update taskId change =>
    obtain ⟨⟨task, handled, rfl⟩, status, rfl, settled⟩ := may
    have inHand : (standings number).phase.task? = some task := by
      rw [handled]
      rfl
    have stays (key : Text) (status' : Status) (ne : task.id ≠ key) :=
      still key status' fun moves => ne moves.1
    have completed (key : Text) (h : crew.Stands shift.workspace key .completed) :=
      stays key .completed (orderly.ledger.ne_of_completed h inHand) h
    have stands := stands_of_update orderly.ready ((orderly.ledger.booked number).held task inHand) status
    cases answered : (shift.workspace.perform crew.desk crew.listId
        (.update task.id (.toStatus status))).1 with
    | error failure =>
      rw [answered] at does abides
      exact ⟨_, orderly.leads does ready abides (orderly.ledger.settle inHand stays (.inl rfl)) completed
        nofun⟩
    | ok saved =>
      rw [answered] at does abides
      refine ⟨_, orderly.leads does ready abides (orderly.ledger.settle inHand stays ?_) completed nofun⟩
      cases status with
      | completed => exact .inr ⟨rfl, stands⟩
      | pending => exact .inl rfl
      | inProgress => exact absurd rfl settled

/-- A step of a pass leads on. -/
theorem leads_passing (orderly : crew.Orderly shift standings) {script : Passing Finding}
    (passing : shift.stages number = .passing script) (tame : ∀ task, crew.Tame (crew.handler number task))
    (reports : List Report) :
    ∃ reached, crew.Leads shift (.go number reports) standings reached := by
  have obeys : crew.Obeys number (standings number) script := by
    have abides := orderly.abides number
    rwa [passing] at abides
  cases script with
  | done result =>
    cases result with
    | ok tally =>
      have ended : standings number = ⟨.free, tally.completed⟩ := obeys
      have finished : tally.completed = (standings number).finished := by rw [ended]
      have does : crew.act shift (.go number reports) =
          { shift.put number .off with returned := shift.returned ++ [(standings number).finished] } := by
        rw [act, go, passing, ← finished]
      exact ⟨_, orderly.leads does orderly.ready rfl (orderly.ledger.handIn number) (fun _ h => h) nofun⟩
    | error interruption =>
      have does : crew.act shift (.go number reports) = shift.put number .off := by
        rw [act, go, passing]
      exact ⟨_, orderly.leads does orderly.ready rfl (orderly.ledger.drop number) (fun _ h => h) nofun⟩
  | instant effect next =>
    obtain ⟨-, quiet, obeys⟩ := obeys
    have does : crew.act shift (.go number reports) =
        { shift.put number (.passing (next shift.workspace)) with
          workspace := effect shift.workspace } := by
      rw [act, go, passing]
      rfl
    exact ⟨_, orderly.leads_steady does (orderly.ready.quiet quiet) (obeys shift.workspace)
      (fun _ _ _ stands => stands.quiet quiet) rfl rfl fun _ h => h⟩
  | pause next => exact obeys.elim
  | handOut jobs next =>
    obtain ⟨task, rfl, holding, obeys⟩ := obeys
    have does : crew.act shift (.go number reports) =
        shift.put number (.handling task (crew.handler number task) next) := by
      rw [act, go, passing]
    exact ⟨_, orderly.leads_steady does orderly.ready ⟨holding, tame task, obeys⟩ (fun _ _ _ h => h) rfl rfl
      fun _ h => h⟩
  | ask desk listId operation next =>
    obtain ⟨rfl, rfl, may, obeys⟩ := obeys
    exact orderly.leads_ask passing may obeys reports

/-- A step of a handler leads on. -/
theorem leads_handling (orderly : crew.Orderly shift standings) {task : Task}
    {left : Script Job Report (HandlerEnd × Finding)}
    {next : List (HandlerEnd × Finding) → Passing Finding}
    (handling : shift.stages number = .handling task left next) (reports : List Report) :
    ∃ reached, crew.Leads shift (.go number reports) standings reached := by
  obtain ⟨holding, tame, obeys⟩ : crew.Abides number (standings number) (.handling task left next) := by
    have abides := orderly.abides number
    rwa [handling] at abides
  -- Unless it ends, the handler goes on with a rest that is tame.
  have goesOn {rest : Script Job Report (HandlerEnd × Finding)} {workspace : Workspace}
      (does : crew.act shift (.go number reports) =
        { shift.put number (.handling task rest next) with workspace })
      (tame : crew.Tame rest) (ready : crew.Ready workspace)
      (stays : ∀ key status, crew.Stands shift.workspace key status → crew.Stands workspace key status) :
      ∃ reached, crew.Leads shift (.go number reports) standings reached :=
    ⟨_, orderly.leads_steady does ready ⟨holding, tame, obeys⟩ (fun key status _ => stays key status) rfl rfl
      fun _ h => h⟩
  cases left with
  | done report =>
    have does : crew.act shift (.go number reports) = shift.put number (.passing (next [report])) := by
      rw [act, go, handling]
    refine ⟨_, orderly.leads_steady does orderly.ready (obeys report) (fun _ _ _ h => h) ?_ rfl nofun⟩
    rw [holding]
    rfl
  | instant effect rest =>
    refine goesOn (by rw [act, go, handling]; rfl) (tame.2 shift.workspace) (orderly.ready.quiet tame.1) ?_
    exact fun _ _ stands => stands.quiet tame.1
  | ask desk listId operation rest =>
    obtain ⟨rfl, allowed, tame⟩ := tame
    refine goesOn (by rw [act, go, handling]; rfl) (tame _) (orderly.ready.perform listId operation) ?_
    exact fun _ _ stands => stands.perform orderly.ready fun own =>
      Operation.not_moves_of_modest (allowed own)
  | pause rest =>
    have tame : crew.Tame rest := tame
    exact goesOn (by rw [act, go, handling]; rfl) tame orderly.ready fun _ _ h => h
  | handOut jobs rest =>
    exact goesOn (by rw [act, go, handling]; rfl) (tame reports) orderly.ready fun _ _ h => h

/-- Every permitted move leads on. -/
theorem leads_act (orderly : crew.Orderly shift standings)
    (tame : ∀ number task, crew.Tame (crew.handler number task)) (permitted : crew.permits move) :
    ∃ reached, crew.Leads shift move standings reached := by
  have waits (same : crew.act shift move = shift) : ∃ reached, crew.Leads shift move standings reached :=
    ⟨standings, orderly.leads_others same orderly.ready fun _ _ _ h => h⟩
  cases move with
  | start number limit =>
    cases stage : shift.stages number with
    | off =>
      have fresh : standings number = .fresh := by
        have abides := orderly.abides number
        rwa [stage] at abides
      have does : crew.act shift (.start number limit) =
          shift.put number (.passing (crew.worker number limit).handingOut.pass.run) := by
        rw [act, stage]
      refine ⟨_, orderly.leads_steady does orderly.ready (obeys_pass limit) (fun _ _ _ h => h) ?_ ?_ nofun⟩
      · rw [fresh]
      · rw [fresh]
    | passing script => exact waits (by rw [act, stage])
    | handling task left next => exact waits (by rw [act, stage])
  | go number reports =>
    cases stage : shift.stages number with
    | off => exact waits (by rw [act, go, stage])
    | passing script => exact orderly.leads_passing stage (tame number) reports
    | handling task left next => exact orderly.leads_handling stage reports
  | client listId operation =>
    refine ⟨standings, orderly.leads_others rfl (orderly.ready.perform listId operation) ?_⟩
    exact fun _ _ _ stands => stands.perform orderly.ready fun own =>
      Operation.not_moves_of_modest (permitted own)
  | «meanwhile» effect =>
    exact ⟨standings, orderly.leads_others rfl (orderly.ready.quiet permitted)
      fun _ _ _ stands => stands.quiet permitted⟩

end Orderly

variable [Inhabited Finding] {crew : Crew Job Report Finding} {shift : Shift Job Report Finding}
  {standings : Nat → Standing} {workspace : Workspace} {moves later : List (Move Report)}

/-- Moves one after the other. -/
theorem run_append : crew.run shift (moves ++ later) = crew.run (crew.run shift moves) later :=
  List.foldl_append

/-- Permitted moves keep what is completed completed. -/
theorem Orderly.completed_run (orderly : crew.Orderly shift standings)
    (tame : ∀ number task, crew.Tame (crew.handler number task))
    (permitted : ∀ move ∈ later, crew.permits move) {key : Text}
    (completed : crew.Stands shift.workspace key .completed) :
    crew.Stands (crew.run shift later).workspace key .completed := by
  induction later generalizing shift standings with
  | nil => exact completed
  | cons move later ih =>
    obtain ⟨reached, leads⟩ := orderly.leads_act tame (permitted move List.mem_cons_self)
    exact ih leads.orderly (fun move mem => permitted move (List.mem_cons_of_mem _ mem))
      (leads.completed key completed)

/-- After permitted moves a crew is orderly, and every worker that holds a task has won a claim of it and has
held it since. -/
theorem history (tame : ∀ number task, crew.Tame (crew.handler number task))
    (ready : crew.Ready workspace) (permitted : ∀ move ∈ moves, crew.permits move) :
    ∃ standings, crew.Orderly (crew.run (.idle workspace) moves) standings ∧
      ∀ number task, (standings number).phase = .holding task →
        ∃ before reports since, moves = before ++ .go number reports :: since ∧
          crew.Wins (crew.run (.idle workspace) before) number task ∧
          ∀ earlier, earlier <+: since →
            ((crew.run (.idle workspace) (before ++ .go number reports :: earlier)).stages
              number).assigned? = some task := by
  induction moves using List.reverseRecOn with
  | nil => exact ⟨fun _ => .fresh, orderly_idle ready, nofun⟩
  | append_singleton moves move ih =>
    obtain ⟨standings, orderly, past⟩ := ih fun move mem => permitted move (List.mem_append_left _ mem)
    obtain ⟨reached, leads⟩ := orderly.leads_act tame (permitted move (by simp))
    have last : crew.run (.idle workspace) (moves ++ [move]) =
        crew.act (crew.run (.idle workspace) moves) move := by
      rw [run_append]
      rfl
    have orderly' : crew.Orderly (crew.run (.idle workspace) (moves ++ [move])) reached := by
      rw [last]
      exact leads.orderly
    refine ⟨reached, orderly', fun number task holding => ?_⟩
    have assigned := orderly'.assigned_iff.mpr holding
    rcases leads.won number task holding with held | ⟨⟨reports, rfl⟩, wins⟩
    · obtain ⟨before, reports, since, rfl, wins, assigned'⟩ := past number task held
      refine ⟨before, reports, since ++ [move], by simp, wins, fun earlier prior => ?_⟩
      rcases List.prefix_concat_iff.mp prior with rfl | prior
      · rwa [List.append_assoc] at assigned
      · exact assigned' earlier prior
    · refine ⟨moves, reports, [], rfl, wins, fun earlier prior => ?_⟩
      rw [List.prefix_nil.mp prior]
      exact assigned

/-- However the steps of any number of workers interleave, pass after pass, with what their handlers do and
with calls of others, where only workers set statuses and saves fail or not: no two handlers run for one task
at a time; the passes return no task as completed twice; and when a handler runs, its worker has won a claim
of the task and has had it in hand since, everything that the task waits for was completed at that moment, and
it stays so whatever happens next. -/
theorem workers_exclusive (crew : Crew Job Report Finding) (workspace : Workspace)
    (moves : List (Move Report)) (tame : ∀ number task, crew.Tame (crew.handler number task))
    (ready : crew.Ready workspace) (permitted : ∀ move ∈ moves, crew.permits move) :
    let shift (moves : List (Move Report)) : Shift Job Report Finding := crew.run (.idle workspace) moves
    (∀ number other task another, number ≠ other →
      ((shift moves).stages number).handled? = some task →
      ((shift moves).stages other).handled? = some another → task.id ≠ another.id) ∧
    (shift moves).returned.flatten.Nodup ∧
    ∀ number task, ((shift moves).stages number).handled? = some task →
      ∃ before reports since, moves = before ++ .go number reports :: since ∧
        crew.Wins (shift before) number task ∧
        (∀ earlier, earlier <+: since →
          ((shift (before ++ .go number reports :: earlier)).stages number).assigned? = some task) ∧
        ∀ key ∈ task.blockedBy, crew.Completed (shift before).workspace key ∧
          ∀ later, (∀ move ∈ later, crew.permits move) →
            crew.Completed (shift (before ++ .go number reports :: later)).workspace key := by
  intro shift
  obtain ⟨standings, orderly, past⟩ := history tame ready permitted
  have holds {number : Nat} {task : Task}
      (handled : ((shift moves).stages number).handled? = some task) :
      (standings number).phase = .holding task :=
    orderly.assigned_iff.mp (Stage.assigned_of_handled handled)
  refine ⟨?_, ?_, ?_⟩
  · intro number other task another ne handled handled'
    refine (orderly.ledger.apart number other ne).hands task another ?_ ?_
    · rw [holds handled]
      rfl
    · rw [holds handled']
      rfl
  · exact (orderly.ledger.booked 0).once.of_append_left
  · intro number task handled
    obtain ⟨before, reports, since, rfl, wins, assigned⟩ := past number task (holds handled)
    refine ⟨before, reports, since, rfl, wins, assigned, fun key mem => ?_⟩
    have permittedBefore : ∀ move ∈ before, crew.permits move := fun move mem =>
      permitted move (List.mem_append_left _ mem)
    obtain ⟨standings', orderly', -⟩ := history tame ready permittedBefore
    obtain ⟨next, asks, answered⟩ := wins
    obtain ⟨list, won⟩ := won_of_claim orderly'.ready answered
    refine ⟨⟨list, won.opened, TaskList.isCompleted_iff.mpr (won.free key mem)⟩, fun later permittedLater => ?_⟩
    obtain ⟨reached, leads⟩ := orderly'.leads_act tame (permitted (.go number reports) (by simp))
    have answers : (crew.act (shift before) (.go number reports)).workspace =
        ((shift before).workspace.perform crew.desk crew.listId (.claim task.id (crew.owner number))).2 := by
      rw [act, go, asks]
      rfl
    have completed : crew.Stands (crew.act (shift before) (.go number reports)).workspace key .completed := by
      rw [answers]
      exact won.stillFree key mem
    have goesOn : shift (before ++ .go number reports :: later) =
        crew.run (crew.act (shift before) (.go number reports)) later := run_append
    rw [goesOn]
    exact (leads.orderly.completed_run tame permittedLater completed).completed

/-- Two workers whose handlers let others go first and return. -/
def pair : Crew Empty Unit Unit where
  desk := 0
  listId := "l"
  owner number := if number = 0 then "a" else "b"
  handler _ _ := .pause (.done (.returned, ()))

/-- A task that waits for others. -/
def waiting (id : Text) (status : Status) (blockedBy : List Text) : Task :=
  { Task.fresh id "s" "" 5 with status, blockedBy }

/-- Three tasks of which the first is completed; each of the others waits for those before it. -/
def chain : TaskList where
  nextId := 4
  tasks := .ofList [("1", waiting "1" .completed []), ("2", waiting "2" .pending ["1"]),
    ("3", waiting "3" .pending ["1", "2"])]

/-- A desk whose store has these tasks in memory. -/
def chained : Workspace :=
  { Workspace.start (.ofInt 5) .empty 0 false with
    desks := [⟨default, ⟨⟨.here, ["d"]⟩, .ofList [("l", chain)], 0⟩, "l", "l", "a"⟩] }

/-- Both workers start a pass and list the pending tasks. -/
def listings : List (Move Unit) := [.start 0 (.whole 2), .go 0 [], .start 1 (.whole 2), .go 1 []]

/-- A worker that goes through the pending tasks. -/
def attempting (number : Nat) (pending : List Task) : Stage Empty Unit Unit :=
  .passing ((pair.worker number (.whole 2)).handingOut.attemptAll (pending.take 2)).run

/-- The shift once both workers have listed the pending tasks. -/
def listed (pending : List Task) : Shift Empty Unit Unit :=
  let starting (number : Nat) : Stage Empty Unit Unit :=
    .passing (pair.worker number (.whole 2)).handingOut.pass.run
  ((((Shift.idle chained).put 0 (starting 0)).put 0 (attempting 0 pending)).put 1 (starting 1)).put 1
    (attempting 1 pending)

/-- The first worker claims the second task. The second worker is refused it, while it is handled; later it
claims the third task, which the first one is refused in its turn. -/
def interleaved : List (Move Unit) :=
  [.go 0 [], .go 0 [], .go 1 [], .go 1 [], .go 0 [], .go 0 [], .go 0 [], .go 0 [], .go 1 [], .go 1 [],
    .go 0 [], .go 0 [], .go 0 []]

/-- The third task once the second worker has claimed it. -/
def claimedThird : Task := (waiting "3" .pending ["1", "2"]).claimedBy "b"

/-- One worker has returned the second task, the other is handling the third, which waited for it. -/
theorem workers_exclusive_chained :
    let moves := listings ++ interleaved
    let shift := pair.run (.idle chained) moves
    (shift.returned = ([["2"]] : List (List Text)) ∧ shift.returned.flatten.Nodup) ∧
      (shift.stages 1).handled? = some claimedThird ∧
      ∃ before reports since, moves = before ++ .go 1 reports :: since ∧
        pair.Wins (pair.run (.idle chained) before) 1 claimedThird ∧
        pair.Completed (pair.run (.idle chained) before).workspace "2" := by
  intro moves shift
  have pending : chain.listed (some .pending) =
      [waiting "2" .pending ["1"], waiting "3" .pending ["1", "2"]] := by
    rw [TaskList.listed_of_ordered _ (by decide +kernel)]
    rfl
  have seen : pair.run (.idle chained) listings = listed (chain.listed (some .pending)) := rfl
  have reached : shift = pair.run (listed [waiting "2" .pending ["1"], waiting "3" .pending ["1", "2"]])
      interleaved := by
    show pair.run (.idle chained) (listings ++ interleaved) = _
    rw [run_append, seen, pending]
  have returned : shift.returned = ([["2"]] : List (List Text)) := by
    rw [reached]
    decide +kernel
  have handled : (shift.stages 1).handled? = some claimedThird := by
    rw [reached]
    decide +kernel
  have ready : pair.Ready chained := by
    have held (listId : Text) (list : TaskList)
        (h : (pair.store chained).lists.find? listId = some list) : list = chain := by
      have mem := Keyed.find?_eq_some_iff.mp h
      exact congrArg Prod.snd (List.mem_singleton.mp mem)
    have ahead : chain.CounterAhead := ⟨by decide, by decide +kernel⟩
    have named : ∀ entry ∈ chain.tasks.entries, entry.2.id = entry.1 := by decide
    refine ⟨by decide, fun listId list h => ?_, fun list h => ?_, fun absent => ?_⟩
    · rwa [held listId list h]
    · rwa [held "l" list h]
    · cases absent
  have permitted : ∀ move ∈ moves, pair.permits move := by
    simp [moves, listings, interleaved, permits]
  obtain ⟨-, once, past⟩ := workers_exclusive pair chained moves (fun _ _ => trivial) ready permitted
  obtain ⟨before, reports, since, split, wins, -, free⟩ := past 1 claimedThird handled
  have completed := (free "2" (by decide)).1
  exact ⟨⟨returned, once⟩, handled, before, reports, since, split, wins, completed⟩

end Crew

end Taskboard
