import DebugConsole.Color
import DebugConsole.Output
import DebugConsole.Panel

/-!
# Problems

Everything that can go wrong with a line or a move. None of it stops a console: a problem is reported in a line of its own, and
the line or the move is dropped. An unknown color is the exception, where the command goes on with another color.
-/

namespace DebugConsole

/-- A reason why a line or a move was not carried out as asked. -/
inductive Problem
  /-- The panel cannot make the move. -/
  | refused (operation : Operation) (reason : Refusal)
  /-- A live environment is never set up. -/
  | liveEnvironment
  /-- Neither a stock command nor a user command. -/
  | unknownCommand (name : String)
  /-- A second command on the line, which was left out with all that follows it. -/
  | secondCommand (name : String)
  /-- No command on the line. -/
  | noCommand
  /-- The command does nothing without an argument. -/
  | missingArgument (command : String)
  /-- A user command that there is nobody to forward to. -/
  | noDelegate (name : String)
  /-- A name that is not in the vocabulary of colors, and the color used instead. -/
  | unknownColor (name : String) (used : ColorName)
deriving DecidableEq, Repr

namespace Refusal

/-- Why an operation was refused, as told to the user. -/
def message (operation : Operation) : Refusal → String
  | setupRequired => s!"cannot {operation.name}: console setup has not completed"
  | notForEmbedded => s!"cannot {operation.name} an embedded console, remove it from its container instead"
  | wrongDisplay display =>
    match operation, display with
    | .openPanel, _ => s!"console is already displayed ({display.name}), close it first"
    | .closePanel, .closed => "console must be open first"
    | .exitFullscreen, _ => s!"console is not in fullscreen ({display.name})"
    | _, _ => s!"cannot {operation.name} while {display.name}"

end Refusal

namespace Problem

/-- The problem as told to the user. -/
def message : Problem → String
  | refused operation reason => reason.message operation
  | liveEnvironment => "console is disabled in a live environment"
  | unknownCommand name => s!"invalid command '{name}'"
  | secondCommand name =>
    "only one command may be used at a time (ignored '-" ++ name ++ "' and the rest of the line)"
  | noCommand => "no command given, commands start with '-'"
  | missingArgument command => s!"'{command}' needs an argument"
  | noDelegate name => s!"command delegate not set, cannot forward '{name}'"
  | unknownColor name used => s!"invalid color '{name}', using default {used.text}"

/-- Whether the command was carried out in spite of the problem, with a substitute. -/
def isSubstitution : Problem → Bool
  | unknownColor _ _ => true
  | _ => false

/-- The output line that reports the problem. -/
def line (p : Problem) : Line :=
  ⟨if p.isSubstitution then .warn else .error, p.message⟩

end Problem

end DebugConsole
