import Taskboard.Script

/-!
# Workers

A worker works on one list for one owner. In a pass it lists the pending tasks, tries to claim each
one, hands a claimed task to its handler, and then sets it to completed, or back to pending if the
handler failed. Tasks that cannot be claimed are passed over. Between passes the worker sleeps; it goes
on until it is cancelled.
-/

namespace Taskboard

/-- How the handler of a task ends. -/
inductive HandlerEnd where
  /-- The work is done. -/
  | returned
  /-- The work failed. -/
  | raised
  /-- The worker was cancelled meanwhile. -/
  | cancelled
deriving DecidableEq, Inhabited

/-- How a pass, or a worker, ends before its time. -/
inductive Interruption where
  /-- It was cancelled. -/
  | cancelled
  /-- The store failed in a way that nobody expects. -/
  | unexpected (failure : Failure)
deriving DecidableEq, Inhabited

/-- What is done for a worker until it is interrupted. -/
abbrev Effort (Job Report : Type) := ExceptT Interruption (Script Job Report)

/-- What a worker works on, and how. -/
structure Worker (Job Report Finding : Type) where
  /-- Desk whose store it asks. -/
  desk : Nat
  /-- List it works on. -/
  listId : Text
  /-- Owner of the tasks it claims. -/
  owner : Text
  /-- Greatest number of tasks tried in one pass; none when negative. -/
  batchLimit : Quantity
  /-- What doing the work means; it may find something out about each task. -/
  handler : Task → Script Job Report (HandlerEnd × Finding)

/-- What came of some tasks. -/
structure Tally (Finding : Type) where
  /-- Identifiers of the tasks that were completed and saved, in order. -/
  completed : List Text
  /-- What the handler found, in order. -/
  findings : List Finding
deriving DecidableEq, Inhabited

namespace Tally

variable {Finding : Type}

/-- Nothing came of no tasks. -/
def empty : Tally Finding := ⟨[], []⟩

/-- What came of some tasks and then of others. -/
def append (first second : Tally Finding) : Tally Finding :=
  ⟨first.completed ++ second.completed, first.findings ++ second.findings⟩

end Tally

namespace Worker

variable {Job Report Finding : Type}

/-- Number of tasks tried in one pass of a worker that is not told any. -/
def defaultBatchLimit : Quantity := .whole 32

/-- The entry that something failed with a task. -/
def failureEntry (worker : Worker Job Report Finding) (what taskId : Text) : Entry :=
  .error Source.worker (what ++ " failed list=" ++ worker.listId ++ " task_id=" ++ taskId)

/-- Writes an entry to the log; that this fails is not expected. -/
def note (entry : Entry) : Effort Job Report Unit :=
  .adapt Interruption.unexpected (Script.note entry)

/-- Asks the store of a worker for an operation on its list. -/
def ask (worker : Worker Job Report Finding) (operation : Operation) :
    Effort Job Report (Except Failure operation.Answer) :=
  .lift (Script.request worker.desk worker.listId operation).run

/-- Sets the status of a task that was handled. An expected failure is noted; the result says whether
the status was saved. -/
def setStatus (worker : Worker Job Report Finding) (taskId : Text) (status : Status)
    (what : Text) : Effort Job Report Bool := do
  match ← worker.ask (.update taskId (.toStatus status)) with
  | .ok _ => return true
  | .error failure =>
    if failure.isExpected then
      note (worker.failureEntry what taskId)
      return false
    else throw (.unexpected failure)

/-- Sets a task whose handler returned to completed; the result says whether that was saved. -/
def complete (worker : Worker Job Report Finding) (taskId : Text) : Effort Job Report Bool := do
  let saved ← worker.setStatus taskId .completed "complete"
  if saved then
    note (.info Source.worker
      ("Task " ++ taskId ++ " -> completed (owner=" ++ worker.owner ++ ")"))
  return saved

/-- Sets a task whose handler failed back to pending. Its owner stays, so that the last claimant can be
seen. -/
def release (worker : Worker Job Report Finding) (taskId : Text) : Effort Job Report Unit := do
  note (worker.failureEntry "handler" taskId)
  let _ ← worker.setStatus taskId .pending "release"

/-- Hands a claimed task to the handler and settles its status. -/
def work (worker : Worker Job Report Finding) (task : Task) :
    Effort Job Report (Tally Finding) := do
  let (handlerEnd, finding) ← worker.handler task
  match handlerEnd with
  | .cancelled => throw .cancelled
  | .raised =>
    worker.release task.id
    return ⟨[], [finding]⟩
  | .returned =>
    let saved ← worker.complete task.id
    return ⟨if saved then [task.id] else [], [finding]⟩

/-- Tries to claim a task and to work on it. -/
def attempt (worker : Worker Job Report Finding) (taskId : Text) :
    Effort Job Report (Tally Finding) := do
  match ← worker.ask (.claim taskId worker.owner) with
  | .ok task => worker.work task
  | .error failure =>
    match failure with
    | .notClaimable .. | .blocked .. | .notFound _ =>
      note (.debug Source.worker ("Skip task " ++ taskId ++ ": " ++ failure.message))
      return .empty
    | _ =>
      if failure.isExpected then
        note (worker.failureEntry "claim" taskId)
        return .empty
      else throw (.unexpected failure)

/-- Goes through the candidates of a pass. -/
def attemptAll (worker : Worker Job Report Finding) :
    List Task → Effort Job Report (Tally Finding)
  | [] => pure .empty
  | candidate :: rest => do
    let first ← worker.attempt candidate.id
    let others ← worker.attemptAll rest
    return first.append others

/-- One pass over the pending tasks. The tasks are listed before it turns out whether the greatest number
of tasks is a number of tasks at all. -/
def pass (worker : Worker Job Report Finding) : Effort Job Report (Tally Finding) := do
  match ← worker.ask (.list (some .pending)) with
  | .ok pending =>
    match worker.batchLimit.toInt with
    | .ok limit => worker.attemptAll (List.take limit.toNat pending)
    | .error fault => throw (.unexpected (.quantity fault))
  | .error failure =>
    if failure.isExpected then
      note (.error Source.worker ("list_tasks failed list=" ++ worker.listId))
      return .empty
    else throw (.unexpected failure)

/-- Seconds between passes of a worker that is not told any. -/
def defaultInterval : Quantity := .whole 5

/-- Least number of seconds between passes. -/
def leastInterval : Binary64 := .ofDecimal false 1 (-2)

/-- Seconds a worker sleeps between passes. -/
def sleepOf (interval : Quantity) : Except QuantityFault Binary64 :=
  interval.toDouble.map fun seconds =>
    if leastInterval.lessThan seconds then seconds else leastInterval

/-- The entry that a worker starts. -/
def startEntry (worker : Worker Job Report Finding) (sleep : Binary64) : Entry :=
  .info Source.worker ("Task worker started list=" ++ worker.listId ++ " owner=" ++ worker.owner ++
    " interval=" ++ sleep.twoPlaces ++ "s")

/-- How a worker ended. -/
structure Career (Finding Between : Type) where
  /-- Seconds of each of its sleeps. -/
  sleep : Binary64
  /-- Why it ended. -/
  interruption : Interruption
  /-- What came of all its tasks. -/
  tally : Tally Finding
  /-- Results of what ran while it slept. -/
  between : List Between

/-- Passes and sleeps of a worker. During each sleep the next of the given scripts runs; the worker is
cancelled in the sleep that is left without one. -/
def rounds {Between : Type} (worker : Worker Job Report Finding) (sleep : Binary64) :
    List (Script Job Report Between) → Script Job Report (Career Finding Between)
  | [] => do
    match ← worker.pass.run with
    | .error interruption => return ⟨sleep, interruption, .empty, []⟩
    | .ok tally => return ⟨sleep, .cancelled, tally, []⟩
  | meanwhile :: rest => do
    match ← worker.pass.run with
    | .error interruption => return ⟨sleep, interruption, .empty, []⟩
    | .ok tally =>
      let result ← meanwhile
      let career ← worker.rounds sleep rest
      return { career with
        tally := tally.append career.tally
        between := result :: career.between }

/-- A worker from its start to its end. It does not start when its sleeps have no length, or when its
start cannot be noted. -/
def employ {Between : Type} (worker : Worker Job Report Finding) (interval : Quantity)
    (meanwhile : List (Script Job Report Between)) :
    Undertaking Job Report (Career Finding Between) := do
  let sleep ← (sleepOf interval).mapError Failure.quantity
  Script.note (worker.startEntry sleep)
  worker.rounds sleep meanwhile

end Worker

end Taskboard
