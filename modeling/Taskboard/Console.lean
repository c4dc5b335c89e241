import Taskboard.Command.Builtin

/-!
# The console

A conversation at a desk: a greeting, then for each line a reply, until an exit command, the end of the
input, or an interruption. A failure of a command that nobody expects ends in an apology, not the
conversation. Everything printed bears a stamp; when the clock shows what has none, or what cannot date
the entries of the log, the conversation fails.
-/

namespace Taskboard.Console

variable {Job Report : Type}

/-- What happens at the prompt. -/
inductive Event where
  /-- A line is typed, perhaps when the clock shows something new; the user may lose patience and
  interrupt the next reply. -/
  | line (text : Text) (clock : Option Clock) (interruptsReply : Bool)
  /-- The user interrupts the prompt, perhaps when the clock shows something new. -/
  | interrupt (clock : Option Clock)

/-- What was said. -/
structure Transcript where
  /-- Everything printed. -/
  output : Text
  /-- Every prompt shown. -/
  prompts : List Text
  /-- Whether an interrupted reply broke the conversation off. -/
  brokenOff : Bool
deriving Inhabited

namespace Transcript

/-- A conversation that ends here. -/
def finished : Transcript := ⟨"", [], false⟩

/-- A conversation after something was printed. -/
def after (transcript : Transcript) (output : Text) : Transcript :=
  { transcript with output := output ++ transcript.output }

/-- A conversation after a prompt was shown. -/
def afterPrompt (transcript : Transcript) (prompt : Text) : Transcript :=
  { transcript with prompts := prompt :: transcript.prompts }

end Transcript

/-- The printed form of a text, with the date and time of day. -/
def stamped (clock : Clock) (text : Text) : Except Failure Text :=
  match clock.stamp with
  | .ok stamp => .ok ("[" ++ stamp ++ "] " ++ text ++ "\n")
  | .error fault => .error (.stamp fault)

/-- The printed form of a text now. -/
def say (text : Text) : Undertaking Job Report Text := do
  let workspace ← Script.look
  stamped workspace.clock text

/-- The prompt of a desk. -/
def prompt (desk : Desk) : Text := "[" ++ desk.listId ++ "]> "

/-- Whether a line ends the conversation. -/
def isExit (line : Text) : Bool :=
  let word := Text.lower line
  word = "/exit" || word = "/quit"

/-- The reply to a line that is neither empty nor an exit. -/
def respond (number : Nat) (line : Text) : Undertaking Job Report Text :=
  tryCatch
    (do
      let reply ← Command.reply number line
      return reply.getD "Commands start with '/'. Use /help to list them.")
    fun _ => do
      Script.note (.error Source.console "Command handler crashed.")
      return "Internal error while handling a command."

/-- Notes why the conversation ends, and that it does. -/
def noteEnd (why : Text) : Undertaking Job Report Unit := do
  Script.note (.info Source.console why)
  Script.note (.info Source.console "Console connector finished.")

/-- How a conversation stands after an event. -/
inductive Course where
  /-- It goes on after something was printed; `impatient` says that the next reply is interrupted. -/
  | onward (output : Text) (impatient : Bool)
  /-- It is over after something was printed; `brokenOff` says that an interrupted reply ended it. -/
  | ended (output : Text) (brokenOff : Bool)

/-- Sets the clock, if it has moved. -/
def moveClock (clock : Option Clock) : Undertaking Job Report Unit :=
  match clock with
  | some clock => Script.change fun workspace => { workspace with clock }
  | none => pure ()

/-- What an event at the prompt leads to. A line that gets no reply leaves the patience of the user as
it is. -/
def react (number : Nat) (impatient : Bool) : Event → Undertaking Job Report Course
  | .interrupt clock => do
    moveClock clock
    noteEnd "Console KeyboardInterrupt, exiting."
    return .ended "\n" false
  | .line text clock interruptsReply => do
    moveClock clock
    let impatient := impatient || interruptsReply
    let line := Text.trim text
    if line = "" then return .onward "" impatient
    else if isExit line then
      noteEnd "Console exit command received."
      return .ended "" false
    else
      let reply ← respond number line
      if impatient then return .ended "" true
      else
        let output ← say reply
        return .onward output false

/-- Notes that nothing more will be typed. -/
def noteNoInput : Undertaking Job Report Unit := noteEnd "Console EOF received, exiting."

/-- The conversation from the next prompt on. -/
def converse (number : Nat) (impatient : Bool) : List Event → Undertaking Job Report Transcript
  | [] => do
    let desk ← Script.desk number
    Script.giveWay
    noteNoInput
    return Transcript.finished.afterPrompt (prompt desk)
  | event :: rest => do
    let desk ← Script.desk number
    Script.giveWay
    match ← react number impatient event with
    | .ended output brokenOff => return ⟨output, [prompt desk], brokenOff⟩
    | .onward output impatient =>
      let transcript ← converse number impatient rest
      return (transcript.after output).afterPrompt (prompt desk)

/-- The greeting at a desk. -/
def greet (number : Nat) : Undertaking Job Report Text := do
  let desk ← Script.desk number
  Script.note (.info Source.console
    ("Console connector started (list=" ++ desk.listId ++ " agent=" ++ desk.agentName ++ ")."))
  say "[CONSOLE] Type /help for commands. Use /exit to quit.\n"

/-- A whole conversation at a desk. -/
def run (number : Nat) (events : List Event) : Undertaking Job Report Transcript := do
  let greeting ← greet number
  let transcript ← converse number false events
  return transcript.after greeting

end Taskboard.Console
