import DebugConsole.Output

/-!
# The log of the host

The host keeps a log of its own. The console writes entries to it and, the other way round, can show the entries of the host as
output lines. Entries are tagged with a target, which says where they come from.
-/

namespace DebugConsole

/-- The severity of a log entry, the most severe first. -/
inductive Severity
  | error | warn | info | debug | trace
deriving DecidableEq, Repr

namespace Severity

/-- How far a severity is from the most severe one. -/
def rank : Severity → Nat
  | error => 0
  | warn => 1
  | info => 2
  | debug => 3
  | trace => 4

/-- Whether a severity is no less than another. -/
def atLeast (s t : Severity) : Bool :=
  decide (s.rank ≤ t.rank)

/-- The level of the output line that shows an entry. -/
def level : Severity → Level
  | error => .error
  | warn => .warn
  | info => .info
  | debug | trace => .debug

end Severity

/-- The severity under which an output line is entered in the log of the host. -/
def Level.severity : Level → Severity
  | debug => .debug
  | warn => .warn
  | error => .error
  | info | command | result => .info

/-- An entry of the log of the host. -/
structure LogEntry where
  severity : Severity
  target : String
  message : String
deriving DecidableEq, Repr

/-- The parts of the console that write to the log of the host. -/
inductive LogSource
  /-- Output lines that are printed to the log of the host as well. -/
  | printed
  | session | lineReader | dispatcher | console | settingsFile
deriving DecidableEq, Repr

namespace LogSource

/-- The target with which the entries of a part are tagged. -/
def target : LogSource → String
  | printed => "overlay_console"
  | session => "bevy_overlay_console"
  | lineReader => "bevy_overlay_console::core::tokenizer"
  | dispatcher => "bevy_overlay_console::core::dispatcher"
  | console => "bevy_overlay_console::core::console"
  | settingsFile => "bevy_overlay_console::persist"

/-- An entry of a part of the console. -/
def entry (source : LogSource) (severity : Severity) (message : String) : LogEntry :=
  ⟨severity, source.target, message⟩

end LogSource

namespace LogEntry

/-- The output line that shows an entry, with its target in front. -/
def line (e : LogEntry) : Line :=
  ⟨e.severity.level, s!"[{e.target}] {e.message}"⟩

/-- The entry for an output line that is printed to the log of the host. -/
def ofLine (l : Line) : LogEntry :=
  LogSource.printed.entry l.level.severity l.text

/-- Whether an entry stands for an output line. Such an entry is never shown again. -/
def isPrinted (e : LogEntry) : Bool :=
  e.target == LogSource.printed.target

end LogEntry

/-- The outcome of an operation on something with states `σ`: the answer, the state afterwards, and the entries that were written
to the log of the host on the way. -/
structure Outcome (σ α : Type) where
  answer : α
  state : σ
  log : List LogEntry := []
deriving Repr

/-- Where steps are taken one after the other, later ones start from what earlier ones have left in the log. -/
theorem Outcome.foldl_log {σ α β : Type} (step : α → σ → Outcome σ β) (as : List α) (before : Outcome σ Unit) :
    let next (before : Outcome σ Unit) (a : α) : Outcome σ Unit :=
      { answer := (), state := (step a before.state).state, log := before.log ++ (step a before.state).log }
    as.foldl next before =
      { answer := (), state := (as.foldl next { answer := (), state := before.state }).state
        log := before.log ++ (as.foldl next { answer := (), state := before.state }).log } := by
  intro next
  induction as generalizing before with
  | nil => simp only [List.foldl_nil, List.append_nil]
  | cons a as ih =>
    rw [List.foldl_cons, List.foldl_cons, ih, ih (next { answer := (), state := before.state } a)]
    simp only [next, List.nil_append, List.append_assoc]

end DebugConsole
