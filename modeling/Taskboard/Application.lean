import Taskboard.Console

/-!
# The application

From variables and a typed conversation to everything the application shows and leaves behind: what it
prints, what its console log shows, and the files. The log file stands in the data folder beside the
folder of the lists.
-/

namespace Taskboard

/-- Something given as the level from which a reader takes entries. -/
inductive LevelChoice where
  /-- A level by its weight. -/
  | weight (level : Int)
  /-- A level by its name. -/
  | named (name : Text)
  /-- Something that is no level, spelled out. -/
  | other (spelling : Text)
deriving DecidableEq, Inhabited

namespace LevelChoice

/-- The names by which levels can be given. -/
def names : List (Text × Int) :=
  [("CRITICAL", Level.critical), ("FATAL", Level.critical), ("ERROR", Level.error),
    ("WARNING", Level.warning), ("WARN", Level.warning), ("INFO", Level.info),
    ("DEBUG", Level.debug), ("NOTSET", 0)]

/-- The level that is chosen. -/
def level : LevelChoice → Except Failure Int
  | .weight level => .ok level
  | .named name =>
    match Entries.find? name names with
    | some level => .ok level
    | none => .error (.unknownLevel name)
  | .other spelling => .error (.notLevel spelling)

end LevelChoice

namespace Application

variable {Job Reply : Type}

/-- Name of the log file. -/
def logFileName : Text := "shared-tasklist.log"

/-- A letter in capitals, as far as it matters for the names a user can choose: two letters outside the
plain alphabet have a plain capital, and two joined letters have two. -/
def capitals (c : CodePoint) : List CodePoint :=
  if c.toNat = 0x131 then ['I']
  else if c.toNat = 0x17F then ['S']
  else if c.toNat = 0xFB05 || c.toNat = 0xFB06 then ['S', 'T']
  else [c.toUpper]

/-- The layout of log lines that has a name. -/
def layout : Text := "%(levelname)s:%(name)s:%(message)s"

/-- The table of layout styles, spelled out. -/
def layoutStyles : Text :=
  "\x7b'%': (<class 'logging.PercentStyle'>, '%(levelname)s:%(name)s:%(message)s'), " ++
    "'\x7b': (<class 'logging.StrFormatStyle'>, " ++
    "'\x7blevelname\x7d:\x7bname\x7d:\x7bmessage\x7d'), " ++
    "'$': (<class 'logging.StringTemplateStyle'>, " ++
    "'$\x7blevelname\x7d:$\x7bname\x7d:$\x7bmessage\x7d')\x7d"

/-- What the names stand for that a user can choose: levels, a layout of log lines, and the table of
layout styles. -/
def choices : List (Text × LevelChoice) :=
  LevelChoice.names.map (fun entry => (entry.1, .weight entry.2)) ++
    ([("BASIC_FORMAT", .named layout), ("_STYLES", .other layoutStyles)] : List (Text × LevelChoice))

/-- What a user has chosen by a name; an unknown name means the level of events. -/
def levelChoice (name : Text) : LevelChoice :=
  (Entries.find? (Text.ofList (name.toList.flatMap capitals)) choices).getD (.weight Level.info)

/-- Makes the folder of the log if need be. -/
def openFolder (disk : Disk) (folder : Path) : Except Failure Disk :=
  match disk.ensureFolders folder with
  | ⟨disk, none⟩ => .ok disk
  | ⟨_, some fault⟩ => .error (.disk fault)

/-- Opens the log file in a folder; it is empty if it is new. -/
def openFile (disk : Disk) (folder : Path) : Except Failure Disk :=
  let path := folder.child logFileName
  match disk.read path with
  | .ok _ => .ok disk
  | .error _ =>
    match disk.write path [] with
    | ⟨disk, none⟩ => .ok disk
    | ⟨_, some fault⟩ => .error (.disk fault)

/-- Opens the log in a folder for two readers: the folder comes first, then the level of the console, then
the file and its level. -/
def openLog (disk : Disk) (folder : Path) (console file : LevelChoice) :
    Except Failure (LogLevels × Disk) := do
  let disk ← openFolder disk folder
  let consoleLevel ← console.level
  let disk ← openFile disk folder
  return (⟨consoleLevel, ← file.level⟩, disk)

/-- Bytes of lines in the log file. A line in which a surrogate stands is left out. -/
def logBytes (lines : List Text) : List UInt8 :=
  lines.flatMap fun line => (Utf8.encode line.toList).toOption.getD []

/-- Adds lines to the log file in a folder. -/
def appendLog (disk : Disk) (folder : Path) (lines : List Text) : Disk :=
  let path := folder.child logFileName
  match disk.read path with
  | .ok bytes => (disk.write path (bytes ++ logBytes lines)).disk
  | .error _ => disk

/-- What the application shows and leaves behind. -/
structure Report where
  /-- What it printed, and the prompts. -/
  transcript : Console.Transcript
  /-- What the console log showed. -/
  consoleLog : Text
  /-- Files and folders, the log file included. -/
  disk : Disk

/-- Notes an event of the application itself. -/
def note (text : Text) : Undertaking Job Reply Unit := Script.note (.info Source.application text)

/-- Sets up a desk; gives its number if there is to be a conversation. -/
def setUp (settings : Settings) : Undertaking Job Reply (Option Nat) := do
  note ("Starting " ++ settings.appName ++ "...")
  let number ← Script.attempt (·.addDesk settings)
  if settings.consoleEnabled then return some number
  else
    note "Console disabled; nothing to run."
    return none

/-- Notes that a conversation is over. -/
def noteEnd : Undertaking Job Reply Unit := note "Bye."

/-- A conversation at a desk. Its end is noted even if it fails. -/
def talk (number : Nat) (events : List Console.Event) : Undertaking Job Reply Console.Transcript :=
  tryFinally
    (do
      let transcript ← Console.run number events
      if transcript.brokenOff then note "Interrupted, shutting down..."
      return transcript)
    noteEnd

/-- The application after its log is open: it sets up a desk and talks, if it is to talk. -/
def session (settings : Settings) (events : List Console.Event) :
    Undertaking Job Reply Console.Transcript := do
  match ← setUp settings with
  | none => return .finished
  | some number => talk number events

/-- Runs the application on a disk, where there is room for `spare` containers more than a list has. -/
def run (settings : Settings) (clock : Clock) (disk : Disk) (spare : Nat) (events : List Console.Event) :
    Except Failure Report := do
  let (levels, disk) ←
    openLog disk settings.dataFolder (levelChoice settings.logLevel) (.weight Level.debug)
  let (result, workspace) :=
    (session settings events : Undertaking Empty Unit _).run.runAlone (.start clock disk spare true)
  let transcript ← result
  let entries := workspace.entries
  return {
    transcript
    consoleLog := Text.join (logLines levels.reachesConsole entries)
    disk := appendLog workspace.disk settings.dataFolder (logLines levels.reachesFile entries) }

end Application

end Taskboard
