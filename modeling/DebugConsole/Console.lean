import DebugConsole.Command.Facade
import DebugConsole.Lifecycle

/-!
# The console

A console is a panel, its settings and its lines, with what it has to tell its host: new output lines, lifecycle events, mail and
whether the host should forget the lines it was told before. Operations put these into queues, which `Console.drain` empties.

The buffer of lines is capped. A line that finds it full pushes out the oldest ones; lines that are pushed out are still told to the
host.
-/

namespace DebugConsole

/-- Mail that the host is asked to compose. -/
structure Mail where
  recipients : List String
  /-- The lines of the console at the time of asking. -/
  body : String
deriving DecidableEq, Repr

/-- What a console tells its host at one time. -/
structure Delivery where
  /-- The lines told before are to be forgotten. -/
  cleared : Bool := false
  outputs : List Line := []
  lifecycle : List Lifecycle := []
  mail : List Mail := []
deriving DecidableEq, Repr

/-- How many lines a buffer holds unless it is told otherwise. -/
def Console.defaultCapacity : Nat := 1000

theorem Console.defaultCapacity_pos : 0 < Console.defaultCapacity := by decide

/-- A console. -/
structure Console where
  panel : Panel := .initial
  settings : Settings := {}
  /-- The lines in the buffer, the oldest first. -/
  lines : List Line := []
  /-- How many lines the buffer holds. -/
  capacity : Nat := Console.defaultCapacity
  capacity_pos : 0 < capacity := by exact Console.defaultCapacity_pos
  /-- Whether the host can compose mail. -/
  canMail : Bool := false
  /-- What the host has not been told yet. -/
  queue : Delivery := {}
deriving DecidableEq

namespace Console

instance : Inhabited Console := ⟨{}⟩

/-- Something that is asked of a console. -/
inductive Op
  | move (move : Move)
  /-- Setup for a fixed rectangle instead of an edge. -/
  | setupPinned (mount : Mount) (corner size : Point)
  | set (setting : Setting)
  | resetSettings
  | pin (corner size : Point)
  | print (destination : Destination) (line : Line)
  | clear
  /-- Another capacity for the buffer. The lines in it stay for now. -/
  | recap (capacity : Nat)
  | allowMail (allowed : Bool)
  | sendMail (recipients : List String)
deriving DecidableEq, Repr

/-- The lines of the buffer as one text. -/
def text (c : Console) : String :=
  Line.textOf c.lines

/-- The buffer after a line was appended: the oldest lines make room if it is full. -/
def appended (lines : List Line) (capacity : Nat) (l : Line) : List Line :=
  lines.drop (lines.length + 1 - capacity) ++ [l]

/-- Appends a line. -/
def append (l : Line) (c : Console) : Console :=
  { c with
    lines := appended c.lines c.capacity l
    queue := { c.queue with outputs := c.queue.outputs ++ [l] } }

/-- Prints a line to the console, to the log of the host, or to both. -/
def print (destination : Destination) (l : Line) (c : Console) : Outcome Console Unit :=
  { answer := ()
    state := if destination = .hostOnly then c else c.append l
    log := if destination = .console then [] else [.ofLine l] }

/-- Empties the buffer. Lines that the host was not told yet are dropped, the others it has to forget. -/
def clear (c : Console) : Console :=
  { c with lines := [], queue := { c.queue with outputs := [], cleared := true } }

/-- The same console with another capacity, of one line at least. -/
def recap (n : Nat) (c : Console) : Console :=
  { c with capacity := max n 1, capacity_pos := by omega }

/-- Asks the host to compose a mail with the lines of the console. -/
def sendMail (recipients : List String) (c : Console) : Console :=
  { c with queue := { c.queue with mail := c.queue.mail ++ [⟨recipients, c.text⟩] } }

/-- The console after a transition of its panel, which is announced. -/
def moved (t : Transition) (p : Panel) (c : Console) : Console :=
  { c with panel := p, queue := { c.queue with lifecycle := c.queue.lifecycle ++ Lifecycle.announcing t } }

/-- A move of the panel alone. -/
def movePanel (m : Move) (c : Console) : Except Problem Transition × Console :=
  match c.panel.step m with
  | .error reason => (.error (.refused m.operation reason), c)
  | .ok p =>
    let t := c.panel.transition m.operation p
    (.ok t, c.moved t p)

/-- Everything back to the start: the panel, all settings but the live environment, and the lines. -/
def reset (c : Console) : Except Problem Transition × Console :=
  ({ c with settings := c.settings.reset }).clear.movePanel .reset

/-- The note on a setup. -/
def setupEntry (mount : Mount) (t : Transition) : LogEntry :=
  LogSource.console.entry .debug s!"Console set up as {mount.label} docked {t.dock.name}"

/-- Makes a move. A live environment is never set up, and a console that is set up already is reset before it is set up again. -/
def move (m : Move) (c : Console) : Outcome Console (Except Problem Transition) :=
  match m with
  | .setup mount _ =>
    if c.settings.liveEnvironment then { answer := .error .liveEnvironment, state := c }
    else
      let (answer, state) := (if c.panel.isReady then c.reset.2 else c).movePanel m
      { answer, state, log := match answer with | .ok t => [setupEntry mount t] | .error _ => [] }
  | .reset =>
    let (answer, state) := c.reset
    { answer, state }
  | .enterFullscreen =>
    let (answer, state) := c.movePanel m
    { answer, state
      log :=
        if answer.isOk ∧ c.settings.fullscreenEnabled = false then
          [LogSource.console.entry .warn "Fullscreen is disabled in settings"]
        else [] }
  | m =>
    let (answer, state) := c.movePanel m
    { answer, state }

/-- Sets a console up for a fixed rectangle. -/
def setupPinned (mount : Mount) (corner size : Point) (c : Console) : Outcome Console (Except Problem Transition) :=
  let outcome := c.move (.setup mount .usual)
  match outcome.answer with
  | .error _ => outcome
  | .ok _ => { outcome with state := { outcome.state with settings := outcome.state.settings.pin corner size } }

/-- The console with other settings. -/
def withSettings (s : Settings) (c : Console) : Console :=
  { c with settings := s }

/-- An operation that always succeeds and is no move. -/
def done (c : Console) (log : List LogEntry) : Outcome Console (Except Problem (Option Transition)) :=
  { answer := .ok none, state := c, log }

/-- The outcome of a move as that of any operation. -/
def ofMove (o : Outcome Console (Except Problem Transition)) : Outcome Console (Except Problem (Option Transition)) :=
  { answer := o.answer.map some, state := o.state, log := o.log }

/-- Carries out an operation. The answer is the transition of the panel, if the operation is a move, or the problem with it. -/
def perform (op : Op) (c : Console) : Outcome Console (Except Problem (Option Transition)) :=
  match op with
  | .move m => ofMove (c.move m)
  | .setupPinned mount corner size => ofMove (c.setupPinned mount corner size)
  | .set setting => (c.withSettings (c.settings.set setting)).done []
  | .resetSettings => (c.withSettings c.settings.reset).done []
  | .pin corner size => (c.withSettings (c.settings.pin corner size)).done []
  | .print destination line =>
    let printed := c.print destination line
    printed.state.done printed.log
  | .clear => c.clear.done []
  | .recap n => (c.recap n).done []
  | .allowMail allowed => ({ c with canMail := allowed }).done []
  | .sendMail recipients => (c.sendMail recipients).done []

/-- What is in the queues, and the console with empty queues. -/
def drain (c : Console) : Delivery × Console :=
  (c.queue, { c with queue := {} })

/-- The operation that a call of a stock command stands for. -/
def opOf : Call → Op
  | .setColor slot value => .set (.color slot value)
  | .setDiagnostics on => .set (.flag .diagnosticMode on)
  | .enterFullscreen => .move .enterFullscreen
  | .exitFullscreen => .move (.exitFullscreen none)
  | .closePanel => .move .closePanel
  | .reset => .move .reset
  | .sendMail recipients => .sendMail recipients
  | .print destination line => .print destination line

/-- The console as stock commands see it. -/
def facade : Facade Console where
  canMail := canMail
  perform call c :=
    let outcome := c.perform (opOf call)
    { answer := match outcome.answer with | .ok _ => none | .error p => some p
      state := outcome.state
      log := outcome.log }

end Console

end DebugConsole
