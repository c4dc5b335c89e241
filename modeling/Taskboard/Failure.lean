import Taskboard.Disk.Basic
import Taskboard.Number.Quantity
import Taskboard.Settings.Variables
import Taskboard.Task.Record
import Taskboard.Time.Stamp

/-!
# Failures

Why a call does not return a result. Most failures are expected: a caller can act on them, and whoever
runs commands or tasks handles them. The others are not: a counter that can no longer be written, a
path that no disk can be asked for, a text that no file can hold, a document nested too deep, surroundings in
which the program cannot start, a number or a reading of the clock that cannot be used, a value without the
member that is needed, and a crash of somebody else's code.
-/

namespace Taskboard

/-- What is wrong with a call. -/
inductive Invalid where
  /-- No action was named. -/
  | missingAction
  /-- An action lacks one of its parameters. -/
  | missingParameter (action key : Text)
  /-- There is no such action. -/
  | unknownAction (action : Text)
  /-- There is no such status. -/
  | unknownStatus (word : Text)
  /-- A list identifier cannot be the name of a file. -/
  | badListId (listId : Text)
  /-- Something else, in words. -/
  | remark (text : Text)
deriving DecidableEq, Inhabited

/-- Wording of what is wrong with a call. -/
def Invalid.message : Invalid → Text
  | .missingAction => "missing required parameter: action"
  | .missingParameter action key => action ++ " requires '" ++ key ++ "'"
  | .unknownAction action => "unknown action: " ++ action
  | .unknownStatus word => "unknown task status: " ++ word
  | .badListId listId => "invalid list_id: " ++ Text.quoted listId
  | .remark text => text

/-- Why a file operation was not carried out: the disk failed, or somebody refused it in words. -/
inductive FileTrouble where
  | disk (fault : DiskFault)
  | refused (text : Text)
deriving DecidableEq, Inhabited

/-- Wording of a file operation that was not carried out. -/
def FileTrouble.message : FileTrouble → Text
  | .disk fault => fault.message
  | .refused text => text

/-- How keeping a list in a file goes wrong. -/
inductive Unkept where
  /-- The file exists but cannot be read. -/
  | unreadable (path : Path) (trouble : FileTrouble)
  /-- A number of the list has too many digits to be written. -/
  | unwritable (listId : Text)
  /-- The file could not be written or put in place. -/
  | unsaved (listId : Text) (path : Path) (trouble : FileTrouble)
  /-- Something else, in words. -/
  | remark (text : Text)
deriving DecidableEq, Inhabited

/-- Wording of a number that is too long to be written. -/
def longNumberMessage : Text :=
  "Exceeds the limit (4300 digits) for integer string conversion; " ++
    "use sys.set_int_max_str_digits() to increase the limit"

/-- Wording of how keeping a list goes wrong. -/
def Unkept.message : Unkept → Text
  | .unreadable path trouble =>
    "failed to read task list file " ++ path.text ++ ": " ++ trouble.message
  | .unwritable listId => "failed to serialize task list " ++ listId ++ ": " ++ longNumberMessage
  | .unsaved listId path trouble =>
    "failed to write task list " ++ listId ++ " to " ++ path.text ++ ": " ++ trouble.message
  | .remark text => text

/-- Why a file is not a list. -/
inductive CorruptReason where
  | load (fault : TaskList.LoadFault)
  | remark (text : Text)
deriving DecidableEq, Inhabited

/-- Wording of why a file is not a list. -/
def CorruptReason.message : CorruptReason → Text
  | .load fault => fault.message
  | .remark text => text

/-- What keeps a list out of its file although the disk is in order. -/
inductive Unstorable where
  /-- A surrogate stands in a text of the list. -/
  | contents (fault : Utf8.EncodeFault)
  /-- The path is none that the disk can be asked for. -/
  | place (fault : DiskFault)
deriving DecidableEq, Inhabited

/-- Wording of what keeps a list out of its file. -/
def Unstorable.message : Unstorable → Text
  | .contents fault => fault.message
  | .place fault => fault.message

/-- Why a call does not return a result. -/
inductive Failure where
  /-- No such task. -/
  | notFound (taskId : Text)
  /-- The call is not a valid one. -/
  | invalid (what : Invalid)
  /-- The task is not pending. -/
  | notClaimable (taskId status : Text)
  /-- Dependencies of the task are not completed. -/
  | blocked (taskId : Text) (dependencies : List Text)
  /-- A list could not be read from or saved to its file. -/
  | unkept (how : Unkept)
  /-- A file is not a list. -/
  | corrupt (path : Text) (reason : CorruptReason)
  /-- An expected failure in words. -/
  | general (text : Text)
  /-- The counter of a list has too many digits to be written. -/
  | counterTooLong
  /-- The disk cannot be asked for the file of a list: its path holds a surrogate or a null character. -/
  | unaddressable (fault : DiskFault)
  /-- A list cannot be put in a file. -/
  | unstorable (what : Unstorable)
  /-- A file is nested too deep to be read. -/
  | nestedTooDeep (container : Json.Container)
  /-- The disk refuses a folder that the program needs to start. -/
  | disk (fault : DiskFault)
  /-- A variable of the file of variables cannot be set. -/
  | variableFault (fault : VariablesFile.Fault)
  /-- The home folder of the user is not known. -/
  | homeUnknown
  /-- A text is not the name of a level. -/
  | unknownLevel (name : Text)
  /-- What stands for a level is neither a number nor a text; it is spelled out. -/
  | notLevel (spelling : Text)
  /-- A number is not of the kind that is needed. -/
  | quantity (fault : QuantityFault)
  /-- A value of some kind lacks a member that is needed. -/
  | noMember (kind member : Text)
  /-- The clock shows a time that cannot be printed. -/
  | stamp (fault : StampFault)
  /-- Somebody else's code crashed, in a way that has a name, with some words. -/
  | crash (kind text : Text)
deriving DecidableEq, Inhabited

namespace Failure

/-- Whether whoever runs commands or tasks handles a failure. -/
def isExpected : Failure → Bool
  | .notFound _ | .invalid _ | .notClaimable .. | .blocked .. | .unkept _ | .corrupt .. | .general _ =>
    true
  | _ => false

/-- Wording of a failure. -/
def message : Failure → Text
  | .notFound taskId => "task not found: " ++ taskId
  | .invalid what => what.message
  | .notClaimable taskId status =>
    "task " ++ taskId ++ " cannot be claimed: current status is " ++ status
  | .blocked taskId dependencies =>
    "task " ++ taskId ++ " is blocked by incomplete tasks: " ++ Text.intercalate ", " dependencies
  | .unkept how => how.message
  | .corrupt path reason => "corrupt task list file " ++ path ++ ": " ++ reason.message
  | .general text => text
  | .counterTooLong => longNumberMessage
  | .unaddressable fault => fault.message
  | .unstorable what => what.message
  | .nestedTooDeep container => (Json.Refusal.tooDeep container).message
  | .disk fault => fault.message
  | .variableFault fault => fault.message
  | .homeUnknown => "Could not determine home directory."
  | .unknownLevel name => "Unknown level: " ++ Text.quoted name
  | .notLevel spelling => "Level not an integer or a valid string: " ++ spelling
  | .quantity fault => fault.message
  | .noMember kind member => "'" ++ kind ++ "' object has no attribute '" ++ member ++ "'"
  | .stamp fault => fault.message
  | .crash _ text => text

end Failure

/-- The status a word stands for, as a call may name it. -/
def Status.parse (word : Text) : Except Failure Status :=
  match ofWord? word with
  | some status => .ok status
  | none => .error (.invalid (.unknownStatus word))

end Taskboard
