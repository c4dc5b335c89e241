import Taskboard.Failure
import Taskboard.Settings.Variables
import Taskboard.Text.Lower

/-!
# Settings

What a user can choose: names, the folder for data, the first list, and whether there is a console.
Every setting is a variable with a default.
-/

namespace Taskboard

/-- The choices of a user. -/
structure Settings where
  /-- Name of the application in the log. -/
  appName : Text
  /-- Name of the level from which the console shows the log. -/
  logLevel : Text
  /-- Folder for lists and the log. -/
  dataFolder : Path
  /-- List used unless another one is named. -/
  defaultListId : Text
  /-- Owner used unless another one is named. -/
  agentName : Text
  /-- Whether there is a console. -/
  consoleEnabled : Bool
deriving DecidableEq, Inhabited

namespace Settings

/-- The first text unless it is empty. -/
def orElse (text default : Text) : Text := if text = "" then default else text

/-- Words that switch something on. -/
def onWords : List Text := ["1", "true", "yes", "y", "on"]

/-- Home folder of a user who has set none. -/
def homeless : Text := "/root"

/-- The home folder, without slashes at its end. -/
def homeText (vars : Variables) : Text :=
  let home := (vars.find? "HOME").getD homeless
  orElse (Text.ofList (home.toList.reverse.dropWhile (· = .char '/')).reverse) "/"

/-- A path with a tilde in first place replaced by the home folder. -/
def expandHome (vars : Variables) (path : Path) : Except Failure Path :=
  match path.root, path.names with
  | .here, first :: rest =>
    if first.toList.head? ≠ some '~' then .ok path
    else
      let home := homeText vars
      if first ≠ "~" || home.toList.head? = some '~' then
        .error .homeUnknown
      else
        .ok ((Path.ofText home).join ⟨.here, rest⟩)
  | _, _ => .ok path

/-- Folder for data of a user who has chosen none. -/
def defaultDataFolder : Path := ⟨.here, [".local", "shared-tasklist"]⟩

/-- The settings that variables describe. -/
def ofVariables (vars : Variables) : Except Failure Settings := do
  let value (name default : Text) : Text :=
    (vars.find? ("TASKLIST_" ++ name)).getD default
  let folder := value "DATA_DIR" ""
  let dataFolder ←
    if Text.trim folder = "" then .ok defaultDataFolder
    else expandHome vars (Path.ofText folder)
  return {
    appName := orElse (value "APP_NAME" "") "shared-tasklist"
    logLevel := value "LOG_LEVEL" "INFO"
    dataFolder
    defaultListId := orElse (Text.trim (value "DEFAULT_LIST_ID" "")) "default"
    agentName := orElse (Text.trim (value "AGENT_NAME" "")) "console"
    consoleEnabled := onWords.contains (Text.lower (Text.trim (value "CONSOLE_ENABLED" "1"))) }

/-- The settings that variables and a file of variables describe. -/
def load (vars : Variables) (file? : Option Text) : Except Failure Settings :=
  match VariablesFile.load vars file? with
  | .error fault => .error (.variableFault fault)
  | .ok vars => ofVariables vars

end Settings

end Taskboard
