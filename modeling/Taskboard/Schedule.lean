import Taskboard.Script

/-!
# Schedules

Several scripts at once. Each store has a lock that is given out in order of arrival. An operation takes
the lock of its desk at once if it is free; otherwise it waits in line. A script that holds the lock lets
others go first when the disk is read or written for it, and nowhere else; when its operation is over it
hands the lock to the head of the line and goes on. One script at a time is running, so that between two
waits it has the workspace for itself.

Scripts that can go on form a queue. Scripts that wait for the disk, or pause, rest: they are woken in
order, but only when nobody is in the queue. A script that hands out jobs waits for all their reports;
each job starts a script of its own at the end of the queue. A run takes turns until nobody is left.
-/

namespace Taskboard

/-- An operation that a script has asked for, and how the script goes on with the answer. -/
structure Request (Job Report : Type) where
  /-- Desk whose store is asked. -/
  desk : Nat
  /-- List that the operation is about. -/
  listId : Text
  /-- What is asked. -/
  operation : Operation
  /-- What follows. -/
  next : Except Failure operation.Answer → Script Job Report Report

/-- What happens when the turn of a script comes. -/
inductive Turn (Job Report : Type) where
  /-- It goes on, holding no lock. -/
  | goOn (script : Script Job Report Report)
  /-- It was given the lock for its request. -/
  | enter (request : Request Job Report)
  /-- The disk was read for its request. -/
  | opened (request : Request Job Report) (opening : Store.Opening)
  /-- The disk was written for it; it gives back the lock of a desk and goes on. -/
  | saved (desk : Nat) (script : Script Job Report Report)
  /-- It has come to an end; whoever waits for it hears of it. -/
  | ended

/-- Jobs that were handed out together. -/
structure Group (Job Report : Type) where
  /-- Number of the script that waits for them. -/
  parent : Nat
  /-- Numbers of the scripts that do them. -/
  members : List Nat
  /-- How many of them have not been heard of. -/
  missing : Nat
  /-- How the waiting script goes on with their reports. -/
  next : List Report → Script Job Report Report

/-- Scripts under way. Scripts are known by their numbers. -/
structure Schedule (Job Report : Type) where
  /-- What they share. -/
  workspace : Workspace
  /-- Turns that will come, in order. -/
  ready : List (Nat × Turn Job Report)
  /-- Turns that come when nobody is ready, in order. -/
  resting : List (Nat × Turn Job Report)
  /-- Requests in line for a lock, in order of arrival. -/
  waiting : List (Nat × Request Job Report)
  /-- Desks whose lock is held. -/
  held : List Nat
  /-- Jobs under way. -/
  groups : List (Group Job Report)
  /-- Number of the next script to start. -/
  fresh : Nat
  /-- Results of the scripts that have come to an end. -/
  results : List (Nat × Report)

namespace Schedule

variable {Job Report : Type}

/-- Scripts that are about to start, in order. -/
def start (scripts : List (Script Job Report Report)) (workspace : Workspace) :
    Schedule Job Report where
  workspace := workspace
  ready := scripts.mapIdx fun number script => (number, .goOn script)
  resting := []
  waiting := []
  held := []
  groups := []
  fresh := scripts.length
  results := []

/-- Puts a turn at the end of the queue. -/
def await (schedule : Schedule Job Report) (number : Nat) (turn : Turn Job Report) :
    Schedule Job Report :=
  { schedule with ready := schedule.ready ++ [(number, turn)] }

/-- Lets a script rest before its next turn. -/
def rest (schedule : Schedule Job Report) (number : Nat) (turn : Turn Job Report) :
    Schedule Job Report :=
  { schedule with resting := schedule.resting ++ [(number, turn)] }

/-- The first request in line at a desk, and the line without it. -/
def firstInLine (desk : Nat) :
    List (Nat × Request Job Report) →
      Option ((Nat × Request Job Report) × List (Nat × Request Job Report))
  | [] => none
  | entry :: rest =>
    if entry.2.desk = desk then some (entry, rest)
    else (firstInLine desk rest).map fun (first, others) => (first, entry :: others)

/-- Gives back the lock of a desk: the first in line has it next, or else it is free. -/
def release (schedule : Schedule Job Report) (desk : Nat) : Schedule Job Report :=
  match firstInLine desk schedule.waiting with
  | some ((number, request), waiting) =>
    { schedule with waiting }.await number (.enter request)
  | none => { schedule with held := schedule.held.filter (· ≠ desk) }

/-- Carries out the rest of a request for which the disk was read: the script waits for the disk
once more, or it gives back the lock and goes on. -/
def conclude (schedule : Schedule Job Report) (number : Nat) (request : Request Job Report)
    (opening : Store.Opening)
    (goOn : Schedule Job Report → Except Failure request.operation.Answer → Schedule Job Report) :
    Schedule Job Report :=
  let settled := schedule.workspace.conclude request.desk request.listId request.operation opening
  let schedule := { schedule with workspace := settled.workspace }
  if settled.touched then schedule.rest number (.saved request.desk (request.next settled.result))
  else goOn (schedule.release request.desk) settled.result

/-- Carries out a request under the lock of its desk. -/
def enter (schedule : Schedule Job Report) (number : Nat) (request : Request Job Report)
    (goOn : Schedule Job Report → Except Failure request.operation.Answer → Schedule Job Report) :
    Schedule Job Report :=
  let opening := schedule.workspace.opening request.desk request.listId
  if opening.touched then schedule.rest number (.opened request opening)
  else schedule.conclude number request opening goOn

/-- Starts scripts for jobs at the end of the queue, and lets a script wait for their reports. -/
def handOut (schedule : Schedule Job Report) (number : Nat)
    (scripts : List (Script Job Report Report))
    (next : List Report → Script Job Report Report) : Schedule Job Report :=
  let members := scripts.mapIdx fun position script => (schedule.fresh + position, script)
  { schedule with
    ready := schedule.ready ++ members.map fun member => (member.1, .goOn member.2)
    groups := ⟨number, members.map Prod.fst, scripts.length, next⟩ :: schedule.groups
    fresh := schedule.fresh + scripts.length }

/-- Keeps the result of a script that has come to an end. -/
def finish (schedule : Schedule Job Report) (number : Nat) (result : Report) :
    Schedule Job Report :=
  { schedule with results := (number, result) :: schedule.results }.await number .ended

/-- Runs a script until it waits or has its result. -/
def proceed (meaning : Job → Script Job Report Report) (schedule : Schedule Job Report)
    (number : Nat) : Script Job Report Report → Schedule Job Report
  | .done result => schedule.finish number result
  | .instant effect next =>
    proceed meaning { schedule with workspace := effect schedule.workspace } number
      (next schedule.workspace)
  | .pause next => schedule.rest number (.goOn next)
  | .ask desk listId operation next =>
    let request : Request Job Report := ⟨desk, listId, operation, next⟩
    if schedule.held.contains desk then
      { schedule with waiting := schedule.waiting ++ [(number, request)] }
    else
      { schedule with held := desk :: schedule.held }.enter number request
        fun schedule answer => proceed meaning schedule number (next answer)
  | .handOut [] next => proceed meaning schedule number (next [])
  | .handOut jobs next => schedule.handOut number (jobs.map meaning) next

/-- The reports of a group, in the order of its members. -/
def reportsOf (schedule : Schedule Job Report) (group : Group Job Report) : List Report :=
  group.members.filterMap fun member => schedule.results.lookup member

/-- Tells a group that one of its members has come to an end. The last one wakes the script that waits for
the group. -/
def hear (schedule : Schedule Job Report) (number : Nat) :
    List (Group Job Report) → List (Group Job Report) × List (Nat × Turn Job Report)
  | [] => ([], [])
  | group :: rest =>
    if group.members.contains number then
      if group.missing ≤ 1 then
        (rest, [(group.parent, .goOn (group.next (schedule.reportsOf group)))])
      else ({ group with missing := group.missing - 1 } :: rest, [])
    else
      let (groups, turns) := schedule.hear number rest
      (group :: groups, turns)

/-- Takes a turn. -/
def take (meaning : Job → Script Job Report Report) (schedule : Schedule Job Report)
    (number : Nat) : Turn Job Report → Schedule Job Report
  | .goOn script => proceed meaning schedule number script
  | .enter request =>
    schedule.enter number request fun schedule answer =>
      proceed meaning schedule number (request.next answer)
  | .opened request opening =>
    schedule.conclude number request opening fun schedule answer =>
      proceed meaning schedule number (request.next answer)
  | .saved desk script => proceed meaning (schedule.release desk) number script
  | .ended =>
    let (groups, turns) := schedule.hear number schedule.groups
    { schedule with groups, ready := schedule.ready ++ turns }

/-- The next turn, and the schedule without it; none when nobody is left. -/
def nextTurn? (schedule : Schedule Job Report) :
    Option (Nat × Turn Job Report × Schedule Job Report) :=
  match schedule.ready, schedule.resting with
  | (number, turn) :: ready, _ => some (number, turn, { schedule with ready })
  | [], (number, turn) :: resting => some (number, turn, { schedule with resting })
  | [], [] => none

/-- Takes turns until nobody is left, at most so many. -/
def turns (meaning : Job → Script Job Report Report) :
    Nat → Schedule Job Report → Schedule Job Report
  | 0, schedule => schedule
  | limit + 1, schedule =>
    match schedule.nextTurn? with
    | none => schedule
    | some (number, turn, schedule) => turns meaning limit (take meaning schedule number turn)

/-- Greatest number of turns of a run. Scripts wait a few times for each of their operations, so that no
run of practical size comes near it. -/
def turnLimit : Nat := 1000000000

/-- Runs scripts together, with what each job means; gives their results in the order of the scripts. -/
def run (meaning : Job → Script Job Report Report) (scripts : List (Script Job Report Report))
    (workspace : Workspace) : List Report × Workspace :=
  let schedule := turns meaning turnLimit (start scripts workspace)
  ((List.range scripts.length).filterMap fun number => schedule.results.lookup number,
    schedule.workspace)

end Schedule

end Taskboard
