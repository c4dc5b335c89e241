import Taskboard.Script
import Taskboard.Text.Lower

/-!
# The command registry

Commands are known by a name and further names, all in small letters. A line that starts with a slash
calls the command registered last under its first word, with the other words as arguments. Expected
failures of a command become replies.
-/

namespace Taskboard

/-- Commands by name, with help texts by main name. -/
structure Registry (Handler : Type) where
  /-- Commands under all their names. -/
  handlers : Keyed Handler
  /-- Help texts under the main names. -/
  helpTexts : Keyed Text

namespace Registry

variable {Handler : Type}

/-- A registry without commands. -/
def empty : Registry Handler := ⟨.empty, .empty⟩

/-- Registers a command under a main name and further names. Names that are taken are given to the
new command. -/
def register (registry : Registry Handler) (name : Text) (handler : Handler) (help : Text)
    (aliases : List Text) : Registry Handler where
  handlers := aliases.foldl (fun handlers other => handlers.put (Text.lower other) handler)
    (registry.handlers.put (Text.lower name) handler)
  helpTexts := registry.helpTexts.put (Text.lower name) help

/-- What a line asks for. -/
inductive Dispatch (Handler : Type) where
  /-- The line is not a command. -/
  | notCommand
  /-- The line names no command. -/
  | noName
  /-- There is no command of this name. -/
  | unknown (name : Text)
  /-- A command is called. -/
  | call (name : Text) (handler : Handler) (arguments : List Text)

/-- Finds out what a line asks for. -/
def dispatch (registry : Registry Handler) (line : Text) : Dispatch Handler :=
  match line.toList with
  | '/' :: rest =>
    match (Text.words rest).map Text.ofList with
    | [] => .noName
    | first :: arguments =>
      let name := Text.lower first
      match registry.handlers.find? name with
      | some handler => .call name handler arguments
      | none => .unknown name
  | _ => .notCommand

/-- The hint to the list of commands. -/
def helpHint : Text := "Use /help to list available commands."

/-- Replies to a line; no reply when it is not a command. -/
def handle {Job Report : Type} (registry : Registry Handler)
    (run : Handler → List Text → Undertaking Job Report Text) (line : Text) :
    Undertaking Job Report (Option Text) := do
  match registry.dispatch line with
  | .notCommand => return none
  | .noName => return some ("Empty command. " ++ helpHint)
  | .unknown name => return some ("Unknown command: /" ++ name ++ ". " ++ helpHint)
  | .call name handler arguments =>
    tryCatch (some <$> run handler arguments) fun failure => do
      if failure.isExpected then
        Script.note (.info Source.commands ("Command /" ++ name ++ " failed: " ++ failure.message))
        return some ("Error: " ++ failure.message)
      else throw failure

/-- The list of commands. -/
def help (registry : Registry Handler) : Text :=
  Text.intercalate "\n" ("Available commands:" ::
    registry.helpTexts.entries.map fun entry => "  /" ++ entry.1 ++ " - " ++ entry.2)

end Registry

end Taskboard
