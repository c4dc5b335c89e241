import Taskboard.Console
import Taskboard.Worker

/-!
# Steps of a scenario

A scenario is a list of steps: somebody sets the clock, puts files into the data folder or takes them
away, calls the tool or the store, types commands, or works as a worker. Several steps may be taken
together, and a worker may meet further steps while it handles a task or sleeps. Desks are known by
names and are set up when they are first needed.
-/

namespace Taskboard.Scenario

/-- What a worker is to do. -/
structure Assignment where
  /-- List it works on. -/
  listId : Text
  /-- Owner of the tasks it claims. -/
  owner : Text
  /-- Greatest number of tasks tried in one pass. -/
  batchLimit : Quantity
  /-- Identifiers of the tasks whose handler fails. -/
  failing : List Text

/-- One step of a scenario. Paths lead on from the data folder. -/
inductive Step where
  /-- The clock is set. -/
  | setClock (clock : Clock)
  /-- A file is written, with the folders above it. -/
  | write (path : Path) (bytes : List UInt8)
  /-- Somebody looks at what stands at a path. -/
  | read (path : Path)
  /-- A folder is made, with the folders above it. -/
  | makeFolder (path : Path)
  /-- A file, or a folder with everything in it, is taken away. -/
  | remove (path : Path)
  /-- From now on saves are refused with these words, or no longer refused. -/
  | refuseSaves (words : Option Text)
  /-- A new desk takes over a name; its store may be made once more, with a default list. -/
  | renew (desk : Text) (defaultListId : Option Text)
  /-- The tool is called, unless what it is called with is no parameters at all. -/
  | call (desk : Text) (parameters : Except Failure Tool.Parameters)
  /-- A command is typed. -/
  | command (desk : Text) (line : Text)
  /-- Somebody asks for the path of a list. -/
  | filePath (desk : Text) (listId : Text)
  /-- The store is asked for an operation, unless the operation itself is invalid. -/
  | ask (desk : Text) (listId : Text) (operation : Except Failure Operation)
  /-- A task is asked for, what was answered is defaced, and the task is asked for again. There has to be
  such a task. -/
  | deface (desk : Text) (listId taskId : Text)
  /-- Steps are taken together by somebody who sits at a desk. -/
  | together (desk : Text) (steps : List Step)
  /-- A worker makes one pass. While it handles a task, the steps given for it are taken. -/
  | pass (desk : Text) (assignment : Assignment) (during : List (Text × List Step))
  /-- A worker makes passes and sleeps between them. In each sleep the next given steps are taken; it is
  cancelled in the sleep that is left without any. -/
  | worker (desk : Text) (assignment : Assignment) (interval : Quantity)
      (during : List (Text × List Step)) (between : List (List Step))
  /-- Somebody talks at the console. -/
  | talk (desk : Text) (events : List Console.Event)

instance : Inhabited Step := ⟨.refuseSaves none⟩

/-- What a step comes to. -/
inductive Reply where
  /-- Nothing to say. -/
  | nothing
  /-- Some text, or that there is none. -/
  | text (text : Option Text)
  /-- What stands at a path. -/
  | standing (node : Option Node)
  /-- The answer of a store to an operation. -/
  | answer (operation : Operation) (answer : operation.Answer)
  /-- The answer of the tool. -/
  | toolAnswer (answer : ToolAnswer)
  /-- What several steps come to. -/
  | all (outcomes : List (Except Failure Reply))
  /-- Identifiers of the tasks that a pass completed, and the tasks it handled, each with what the steps
  taken meanwhile come to. -/
  | passed (completed : List Text) (handled : List (Task × Option (List (Except Failure Reply))))
  /-- Length and number of the sleeps of a worker that was cancelled, the tasks it handled, and what the
  steps taken during its sleeps come to. -/
  | cancelled (sleep : Binary64) (sleeps : Nat)
      (handled : List (Task × Option (List (Except Failure Reply))))
      (between : List (List (Except Failure Reply)))
  /-- What was said at the console. -/
  | transcript (transcript : Console.Transcript)

/-- What a step comes to, or why it fails. -/
abbrev Outcome := Except Failure Reply

end Taskboard.Scenario
