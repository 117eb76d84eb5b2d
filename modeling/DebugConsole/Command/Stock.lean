import DebugConsole.Command.Facade

/-!
# Stock commands

The commands that every console has. Each of them makes one call to the console and then confirms it; `Stock.plan` says which call,
which confirmation, and what is to be reported first.
-/

namespace DebugConsole

/-- A stock command. -/
inductive Stock
  | enterFullscreen | exitFullscreen | closeConsole | enableDiag | disableDiag | diagTextColor | diagBackgroundColor
  | backgroundColor | textColor | textBoxColor | consoleReset | sendEmail
deriving DecidableEq, Repr

namespace Stock

/-- The stock commands, in the order of the help. -/
def all : List Stock :=
  [enterFullscreen, exitFullscreen, closeConsole, enableDiag, disableDiag, diagTextColor, diagBackgroundColor,
    backgroundColor, textColor, textBoxColor, consoleReset, sendEmail]

def name : Stock → String
  | enterFullscreen => "enterfullscreen"
  | exitFullscreen => "exitfullscreen"
  | closeConsole => "closeconsole"
  | enableDiag => "enablediag"
  | disableDiag => "disablediag"
  | diagTextColor => "diagtextcolor"
  | diagBackgroundColor => "diagbackgroundcolor"
  | backgroundColor => "backgroundcolor"
  | textColor => "textcolor"
  | textBoxColor => "textboxcolor"
  | consoleReset => "consolereset"
  | sendEmail => "sendemail"

/-- How many arguments the command reads. Further ones are ignored. -/
def arity : Stock → Nat
  | diagTextColor | diagBackgroundColor | backgroundColor | textColor | textBoxColor | sendEmail => 1
  | enterFullscreen | exitFullscreen | closeConsole | enableDiag | disableDiag | consoleReset => 0

/-- What the command does, for the help. -/
def description : Stock → String
  | enterFullscreen => "Expand the console to fullscreen"
  | exitFullscreen => "Return from fullscreen to the docked panel"
  | closeConsole => "Close the console"
  | enableDiag => "Enable diagnostic display mode"
  | disableDiag => "Disable diagnostic display mode"
  | diagTextColor => "Set the diagnostic text color"
  | diagBackgroundColor => "Set the diagnostic background color"
  | backgroundColor => "Set the background color"
  | textColor => "Set the text color"
  | textBoxColor => "Set the input field color"
  | consoleReset => "Reset the console and all its settings"
  | sendEmail => "Mail the console log to an address"

/-- Whether the command exists only while mail can be sent. -/
def needsMail : Stock → Bool
  | sendEmail => true
  | _ => false

/-- The command with a name in lower case. -/
def ofName? (name : String) : Option Stock :=
  all.find? fun c => c.name == name

/-- The commands that exist while mail can or cannot be sent. -/
def active (mail : Bool) : List Stock :=
  all.filter fun c => mail || !c.needsMail

/-- What carrying out a stock command comes down to. -/
structure Plan where
  /-- A problem that is reported first and does not keep the command from going on. -/
  warning : Option Problem := none
  /-- The call to the console. -/
  call : Call
  /-- Where the confirmation is printed. -/
  destination : Destination := .both
  /-- What is printed if the call succeeds. -/
  confirmation : String

/-- The line that confirms a command. -/
def Plan.line (p : Plan) : Line :=
  ⟨.result, p.confirmation⟩

/-- The plan of a command that sets a color. A name that is not in the vocabulary is reported and stands for the fallback, and so
does a missing name, which counts as an empty one. -/
def colorPlan (slot : ColorSlot) (what : String) (argument : Option String) : Plan :=
  let name := argument.getD ""
  let used := ColorName.ofText name
  { warning := if (ColorName.find? name).isSome then none else some (.unknownColor name used)
    call := .setColor slot used.color
    confirmation := s!"{what} changed to {used.text}" }

/-- The plan of a command with its first argument, or the problem that keeps it from being carried out. -/
def plan (c : Stock) (argument : Option String) : Except Problem Plan :=
  match c with
  | enterFullscreen => .ok { call := .enterFullscreen, confirmation := "Fullscreen enabled" }
  | exitFullscreen => .ok { call := .exitFullscreen, confirmation := "Fullscreen disabled" }
  | closeConsole => .ok { call := .closePanel, confirmation := "Console closed" }
  | enableDiag => .ok { call := .setDiagnostics true, confirmation := "Diagnostic mode enabled" }
  | disableDiag => .ok { call := .setDiagnostics false, confirmation := "Diagnostic mode disabled" }
  | diagTextColor => .ok (colorPlan .diagText "Diagnostic text color" argument)
  | diagBackgroundColor => .ok (colorPlan .diagBackground "Diagnostic background color" argument)
  | backgroundColor => .ok (colorPlan .background "Background color" argument)
  | textColor => .ok (colorPlan .text "Text color" argument)
  | textBoxColor => .ok (colorPlan .textField "Text box color" argument)
  | consoleReset =>
    .ok {
      call := .reset
      destination := .hostOnly
      confirmation := "Console reset, set it up again to continue" }
  | sendEmail =>
    match argument.getD "" with
    | "" => .error (.missingArgument c.name)
    | address => .ok { call := .sendMail [address], confirmation := s!"Composing mail to {address}" }

theorem mem_all (c : Stock) : c ∈ all := by
  cases c <;> decide

theorem ofName?_name (c : Stock) : ofName? c.name = some c := by
  cases c <;> decide

end Stock

end DebugConsole
