import DebugConsole.Command.Registry
import DebugConsole.CommandLine

/-!
# Dispatching command lines

A line is read, its command is looked up among the stock commands and then among the user commands, and it is carried out, forwarded
to the delegate or reported. `dispatch` works over any facade and keeps all that happens on the way: the calls to the console,
what the delegate receives, the entries for the log of the host, and the report.
-/

namespace DebugConsole

/-- Who a command was given to. -/
inductive Handler
  | stock (command : Stock)
  | delegate (command : Command)
deriving DecidableEq, Repr

/-- The report on a line. -/
structure Report where
  /-- The command that was read from the line. -/
  command : Option Command := none
  /-- Who it was given to, if anyone. -/
  handler : Option Handler := none
  /-- The problems that were reported, in order. -/
  problems : List Problem := []
deriving DecidableEq, Repr

namespace Report

/-- Whether nothing was reported. -/
def isClean (r : Report) : Bool :=
  r.problems.isEmpty

/-- The stock command that was carried out. -/
def stock? (r : Report) : Option Stock :=
  match r.handler with
  | some (.stock c) => some c
  | _ => none

end Report

/-- What the name of a command stands for. -/
inductive Meaning
  | stock (command : Stock)
  /-- A user command that the delegate takes. -/
  | delegated
  /-- A user command, but there is no delegate. -/
  | undeliverable
  | unknown
deriving DecidableEq, Repr

/-- What a name stands for: an active stock command, else a name that is registered or that the delegate lists. -/
def Registry.resolve (registry : Registry) (delegate : Option (List String)) (mail : Bool) (name : String) : Meaning :=
  match (Stock.ofName? name).filter fun c => !c.needsMail || mail with
  | some c => .stock c
  | none =>
    match delegate with
    | some listed =>
      if registry.contains name || listed.any (fun n => Text.sameName n name) then .delegated else .unknown
    | none => if registry.contains name then .undeliverable else .unknown

/-- A line on its way, over a facade with states `σ`. -/
structure Run (σ : Type) where
  state : σ
  /-- The calls to the console, in order. -/
  calls : List Call := []
  /-- The commands that the delegate received. -/
  forwarded : List Command := []
  /-- The entries for the log of the host. -/
  log : List LogEntry := []
  report : Report := {}

namespace Run

variable {σ : Type}

/-- Makes a call. The answer is the problem with it, if it failed. -/
def call (F : Facade σ) (c : Call) (run : Run σ) : Option Problem × Run σ :=
  let outcome := F.perform c run.state
  (outcome.answer, { run with state := outcome.state, calls := run.calls ++ [c], log := run.log ++ outcome.log })

/-- Prints a line. -/
def print (F : Facade σ) (destination : Destination) (line : Line) (run : Run σ) : Run σ :=
  (run.call F (.print destination line)).2

/-- Reports a problem, in the report and in a line of its own. -/
def fail (F : Facade σ) (p : Problem) (run : Run σ) : Run σ :=
  let run := run.print F .both p.line
  { run with report := { run.report with problems := run.report.problems ++ [p] } }

/-- Adds an entry for the log of the host. -/
def note (e : LogEntry) (run : Run σ) : Run σ :=
  { run with log := run.log ++ [e] }

/-- Notes in the report who the command is given to. -/
def givenTo (h : Handler) (run : Run σ) : Run σ :=
  { run with report := { run.report with handler := some h } }

/-- Carries out a plan: its warning, its call, and the confirmation if the call succeeds. -/
def follow (F : Facade σ) (plan : Stock.Plan) (run : Run σ) : Run σ :=
  let run := plan.warning.elim run fun p => run.fail F p
  match run.call F plan.call with
  | (none, run) => run.print F plan.destination plan.line
  | (some p, run) => run.fail F p

/-- Carries out a stock command. -/
def carryOut (F : Facade σ) (c : Stock) (argument : Option String) (run : Run σ) : Run σ :=
  match c.plan argument with
  | .ok plan => run.follow F plan
  | .error p => run.fail F p

/-- Forwards a command to the delegate. -/
def forward (c : Command) (run : Run σ) : Run σ :=
  { run.givenTo (.delegate c) with forwarded := run.forwarded ++ [c] }

/-- Gives a command to whom its name stands for. -/
def give (F : Facade σ) (registry : Registry) (delegate : Option (List String)) (c : Command) (run : Run σ) : Run σ :=
  match registry.resolve delegate (F.canMail run.state) c.name with
  | .stock s => (run.givenTo (.stock s)).carryOut F s c.argument?
  | .delegated => run.forward c
  | .undeliverable => run.fail F (.noDelegate c.name)
  | .unknown => run.fail F (.unknownCommand c.name)

end Run

/-- What the dispatcher notes before it looks a command up. -/
def Command.trace (c : Command) : LogEntry :=
  LogSource.dispatcher.entry .debug
    s!"Dispatching '{c.name}' with arguments {QuoteStyle.hostLog.quoteList c.arguments}"

/-- Handles a line, with the names that the delegate lists if there is one. -/
def dispatch {σ : Type} (F : Facade σ) (registry : Registry) (delegate : Option (List String)) (line : String) (state : σ) :
    Run σ :=
  let run : Run σ := { state, log := CommandLine.trace line }
  match CommandLine.read line with
  | .error .blank => run
  | .error .unmarked => run.fail F .noCommand
  | .ok read =>
    let run := read.leftOut.elim run fun rest => run.fail F (.secondCommand rest.name)
    let run := (run.note read.command.trace).give F registry delegate read.command
    { run with report := { run.report with command := some read.command } }

end DebugConsole
