import Taskboard.Time.Stamp

/-!
# Log entries

An entry has a level, the name of its source and a text. Two readers take part: a file that receives
every entry from a level on, and a console that in addition asks each source for a level of its own.
-/

namespace Taskboard

/-- An entry of the log. -/
structure Entry where
  /-- Weight of the entry. -/
  level : Int
  /-- Dotted name of the source. -/
  source : Text
  /-- Text of the entry. -/
  text : Text
deriving DecidableEq, Inhabited

namespace Level

/-- Level of details. -/
def debug : Int := 10

/-- Level of events. -/
def info : Int := 20

/-- Level of refusals. -/
def warning : Int := 30

/-- Level of failures. -/
def error : Int := 40

/-- Level of fatal failures. -/
def critical : Int := 50

/-- The levels with a name of their own. -/
def named : List (Int × Text) :=
  [(critical, "CRITICAL"), (error, "ERROR"), (warning, "WARNING"), (info, "INFO"),
    (debug, "DEBUG"), (0, "NOTSET")]

/-- Name of a level. -/
def name (level : Int) : Text :=
  match named.find? fun entry => entry.1 = level with
  | some entry => entry.2
  | none => "Level " ++ toString level

end Level

namespace Source

/-- Source of entries about stored lists. -/
def store : Text := "shared_tasklist.tasks.task_store"

/-- Source of entries about calls. -/
def tool : Text := "shared_tasklist.tasks.task_api"

/-- Source of entries about passes. -/
def worker : Text := "shared_tasklist.tasks.task_worker"

/-- Source of entries about commands. -/
def commands : Text := "shared_tasklist.cli.commands"

/-- Source of entries about desks being set up. -/
def setup : Text := "shared_tasklist.cli.bootstrap"

/-- Source of entries about the console. -/
def console : Text := "shared_tasklist.connectors.console_connector"

/-- Source of entries about the application. -/
def application : Text := "shared_tasklist.cli.main"

end Source

/-- An entry about a detail. -/
def Entry.debug (source text : Text) : Entry := ⟨Level.debug, source, text⟩

/-- An entry about an event. -/
def Entry.info (source text : Text) : Entry := ⟨Level.info, source, text⟩

/-- An entry about a refusal. -/
def Entry.warning (source text : Text) : Entry := ⟨Level.warning, source, text⟩

/-- An entry about a failure. -/
def Entry.error (source text : Text) : Entry := ⟨Level.error, source, text⟩

/-- Least level that a console shows, by source; the part of a dotted name up to a dot stands for all
sources below it. -/
def consoleThresholds : List (Text × Int) :=
  [("shared_tasklist", 0), ("shared_tasklist.tasks.task_worker", Level.warning),
    ("py.warnings", Level.error)]

/-- Whether a source is the named one or lies below it. -/
def isBelow (source name : Text) : Bool :=
  source = name || (name ++ ".").toList.isPrefixOf source.toList

/-- Least level at which a console shows entries of a source: that of the longest matching name, and
the level of failures for all other sources. -/
def consoleThreshold (source : Text) : Int :=
  (consoleThresholds.foldl
    (fun (best : Int × Int) entry =>
      if isBelow source entry.1 && best.2 < entry.1.length then (entry.2, entry.1.length) else best)
    (Level.error, -1)).1

/-- Levels from which the console and the file take entries. -/
structure LogLevels where
  /-- Least level on the console. -/
  console : Int
  /-- Least level in the file. -/
  file : Int
deriving DecidableEq, Inhabited

namespace LogLevels

/-- Least level that is recorded at all. -/
def recorded : Int := Level.debug

/-- Whether the file takes an entry. -/
def reachesFile (levels : LogLevels) (entry : Entry) : Bool :=
  recorded ≤ entry.level && levels.file ≤ entry.level

/-- Whether the console takes an entry. -/
def reachesConsole (levels : LogLevels) (entry : Entry) : Bool :=
  recorded ≤ entry.level && levels.console ≤ entry.level &&
    consoleThreshold entry.source ≤ entry.level

end LogLevels

/-- The line of an entry written at a reading of the clock. -/
def Entry.line (entry : Entry) (time : Instant) : Text :=
  time.calendarText ++ "." ++ time.thousandthsText ++ " " ++ Level.name entry.level ++ " " ++
    entry.source ++ ": " ++ entry.text ++ "\n"

/-- Lines of the entries that satisfy a test, in order. An entry whose time cannot be written has none. -/
def logLines (test : Entry → Bool) (entries : List (Instant × Entry)) : List Text :=
  (entries.filter fun entry => test entry.2 && entry.1.hasCalendarText).map
    fun entry => entry.2.line entry.1

end Taskboard
