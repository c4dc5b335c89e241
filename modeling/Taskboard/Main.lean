import Std.Time.DateTime.Timestamp
import Taskboard.Application

/-!
# The program

The outer layer: it reads variables, lines and files, runs the application on them one event at a time,
and prints and writes what comes of it. The disk of the application holds the files that it has asked
for; after each event the changes are written back, each file beside its target first.
-/

namespace Taskboard.Program

/-- A text as a terminal shows it, with the replacement character for a surrogate. -/
def shown (text : Text) : String :=
  String.ofList (text.toList.map fun
    | .char c => c
    | .surrogate _ => Char.ofNat 0xFFFD)

/-- Number of containers for which there is room in a document beyond those of a list. -/
def spare : Nat := 900

/-- The variables that matter. -/
def variableNames : List Text :=
  ["HOME", VariablesFile.switchName, "TASKLIST_APP_NAME", "TASKLIST_LOG_LEVEL", "TASKLIST_DATA_DIR",
    "TASKLIST_DEFAULT_LIST_ID", "TASKLIST_AGENT_NAME", "TASKLIST_CONSOLE_ENABLED"]

/-- The variables that the program was started with. -/
def environment : IO Variables :=
  variableNames.foldlM
    (fun vars name => do
      match ← IO.getEnv (shown name) with
      | some value => return vars.put name (Text.ofString value)
      | none => return vars)
    .empty

/-- The bytes of a file; none when they cannot be read. -/
def bytes? (path : Text) : IO (Option (List UInt8)) := do
  try
    let bytes ← IO.FS.readBinFile (shown path)
    return some bytes.toList
  catch _ => return none

/-- The first file of variables among some paths, as text. -/
def variablesFile? : List Text → IO (Option Text)
  | [] => return none
  | path :: rest => do
    match ← bytes? path with
    | some bytes => return (Utf8.decode bytes).toOption.map Text.ofList
    | none => variablesFile? rest

/-- Paths of the file of variables: in the working folder and in those above it. -/
def variablesPaths : List Text :=
  (List.range 64).map fun above => Text.join (List.replicate above "../") ++ ".env"

/-- What the clock shows. -/
def now : IO Clock := do
  let timestamp ← Std.Time.Timestamp.now
  let nanoseconds := timestamp.val.second.val * 1000000000 + timestamp.val.nano.val
  return ⟨.double (.ofRatio (nanoseconds < 0) nanoseconds.natAbs 1000000000)⟩

/-- The path of a place. -/
def placeText (place : Location) : Text :=
  if place.head? = some "/" then "/" ++ Text.intercalate "/" place.tail else Text.intercalate "/" place

/-- Writes a file or makes a folder. -/
def writeNode (path : Text) : Node → IO Unit
  | .folder => IO.FS.createDirAll (shown path)
  | .file bytes => do
    let beside := path ++ ".tmp"
    IO.FS.writeBinFile (shown beside) (ByteArray.mk bytes.toArray)
    IO.FS.rename (shown beside) (shown path)

/-- Writes what is new on a disk. -/
def writeBack (before after : Disk) : IO Unit :=
  after.nodes.reverse.forM fun entry =>
    if before.node? entry.1 = some entry.2 then pure () else writeNode (placeText entry.1) entry.2

/-- A disk with the file at a path as it is now. A file that is there but cannot be read is taken for a
folder, so that it is neither taken for an empty list nor replaced. -/
def withFile (disk : Disk) (path : Path) : IO Disk := do
  let parent := (disk.ensureFolders path.parent).disk
  try
    let bytes ← IO.FS.readBinFile (shown path.text)
    return (parent.write path bytes.toList).disk
  catch failure =>
    match failure with
    | .noFileOrDirectory .. => return disk
    | _ => return (parent.ensureFolders path).disk

/-- The disk of a workspace with the file of the current list of a desk, unless the list is in memory
already. -/
def withCurrentList (workspace : Workspace) (number : Nat) : IO Workspace := do
  let desk := workspace.desk number
  match desk.store.lists.find? desk.listId, desk.store.filePath desk.listId with
  | none, .ok path => return { workspace with disk := ← withFile workspace.disk path }
  | _, _ => return workspace

/-- Where the log goes. -/
structure LogWriter where
  /-- Levels of the readers. -/
  levels : LogLevels
  /-- The log file. -/
  file : IO.FS.Handle

/-- Carries something out now, writes the changes back, and sends the entries to the readers of the log. -/
def carryOut {α : Type} (writer : LogWriter) (undertaking : Undertaking Empty Unit α)
    (workspace : Workspace) : IO (Except Failure α × Workspace) := do
  let (result, after) :=
    undertaking.run.runAlone { workspace.withNewLog with clock := ← now }
  let entries := after.entries
  (← IO.getStderr).putStr (shown (Text.join (logLines writer.levels.reachesConsole entries)))
  writer.file.write (ByteArray.mk (Application.logBytes (logLines writer.levels.reachesFile entries)).toArray)
  writer.file.flush
  writeBack workspace.disk after.disk
  return (result, after)

/-- Prints a text at once. -/
def print (text : Text) : IO Unit := do
  let output ← IO.getStdout
  output.putStr (shown text)
  output.flush

/-- Reports a failure that ends the program. -/
def fail (failure : Failure) : IO UInt32 := do
  IO.eprintln (shown failure.message)
  return 1

/-- Talks at a desk until the conversation is over. -/
partial def talk (writer : LogWriter) (number : Nat) (workspace : Workspace) :
    IO (Except Failure Unit × Workspace) := do
  print (Console.prompt (workspace.desk number))
  let line ← (← IO.getStdin).getLine
  if line.isEmpty then carryOut writer Console.noteNoInput workspace
  else
    let workspace ← withCurrentList workspace number
    let event := Console.Event.line line none false
    let (course, workspace) ← carryOut writer (Console.react number false event) workspace
    match course with
    | .error failure => return (.error failure, workspace)
    | .ok (.onward output _) =>
      print output
      talk writer number workspace
    | .ok (.ended output _) =>
      print output
      return (.ok (), workspace)

/-- Greets at a desk and talks. -/
def converse (writer : LogWriter) (number : Nat) (workspace : Workspace) :
    IO (Except Failure Unit × Workspace) := do
  let (greeting, workspace) ← carryOut writer (Console.greet number) workspace
  match greeting with
  | .error failure => return (.error failure, workspace)
  | .ok greeting =>
    print greeting
    talk writer number workspace

/-- The program once its log is open. -/
def session (settings : Settings) (writer : LogWriter) (disk : Disk) : IO UInt32 := do
  let (desk, workspace) ←
    carryOut writer (Application.setUp settings) (.start (.ofInt 0) disk spare true)
  match desk with
  | .error failure => fail failure
  | .ok none => return 0
  | .ok (some number) =>
    let (result, workspace) ← converse writer number workspace
    let (ending, _) ← carryOut writer Application.noteEnd workspace
    match ending, result with
    | .error failure, _ | _, .error failure => fail failure
    | .ok (), .ok () => return 0

/-- The program with given settings. -/
def run (settings : Settings) : IO UInt32 := do
  match Application.openFolder .empty settings.dataFolder with
  | .error failure => fail failure
  | .ok disk =>
    writeBack .empty disk
    match (Application.levelChoice settings.logLevel).level with
    | .error failure => fail failure
    | .ok level =>
      let path := settings.dataFolder.child Application.logFileName
      let file ← IO.FS.Handle.mk (shown path.text) .append
      session settings ⟨⟨level, Level.debug⟩, file⟩ disk

end Taskboard.Program

open Taskboard in
/-- Starts the program with the variables of its surroundings. -/
def main : IO UInt32 := do
  let vars ← Program.environment
  let file ← Program.variablesFile? Program.variablesPaths
  match Settings.load vars file with
  | .error failure => Program.fail failure
  | .ok settings => Program.run settings
