import DebugConsole.Command.Dispatch
import DebugConsole.Config.Store
import DebugConsole.Forwarder
import DebugConsole.Terminal

/-!
# Sessions

A session is a console at work in its host, with the registry of user commands, the forwarder, the terminal and the settings file.
Lines are submitted at any time and handled in the next frame, which then tells the host all that happened since the frame before.

With capture, the session hears the log of the host. What it heard is passed on at the end of a frame and shown at the start of the next
one, so what a frame itself leaves in the log is not shown before the next frame. Entries that stand for an output line are not shown
again. An update is two frames: after it everything has been shown and told.
-/

namespace DebugConsole

/-- How a session is started. -/
structure Launch where
  settings : Settings := {}
  /-- The setup that is asked for at the start. -/
  setup : Option (Mount × Dock) := none
  canMail : Bool := false
  /-- The capacity of the buffer, if not the usual one. -/
  capacity : Option Nat := none
  /-- Whether the log of the host is captured. -/
  capture : Bool := false
  /-- The least severe entries that are heard. -/
  threshold : Severity := .info
  style : Terminal.Style := {}
  /-- What is typed on the terminal before the start. -/
  typed : List UInt8 := []
  directory : Directory := {}
  configPath : String := Config.defaultPath

/-- A console at work. -/
structure Session where
  console : Console := {}
  registry : Registry := {}
  forwarder : Forwarder := {}
  style : Terminal.Style := {}
  directory : Directory := {}
  capture : Bool := false
  threshold : Severity := .info
  /-- Lines that were submitted and wait for the next frame. -/
  submitted : List String := []
  /-- Entries that the next frame shows: those that capture has passed on, and those that the host wants to see on the console. -/
  announced : List LogEntry := []
  /-- Entries that were heard since the last frame. -/
  heard : List LogEntry := []

/-- What the host is told in a frame, or in some of them. -/
structure Update where
  delivery : Delivery
  /-- The user commands that were forwarded. -/
  commands : List Command
  /-- What is written to the terminal. -/
  written : String
deriving DecidableEq, Repr

/-- All that the host is told in one frame and then in another. -/
def Update.append (first second : Update) : Update where
  delivery := {
    cleared := first.delivery.cleared || second.delivery.cleared
    outputs := first.delivery.outputs ++ second.delivery.outputs
    lifecycle := first.delivery.lifecycle ++ second.delivery.lifecycle
    mail := first.delivery.mail ++ second.delivery.mail }
  commands := first.commands ++ second.commands
  written := first.written ++ second.written

namespace Session

/-- Something that happens to a session. -/
inductive Event
  | operate (op : Console.Op)
  | register (name : String)
  | unregister (name : String)
  /-- A line handled at once, with a delegate that lists some names, or none. -/
  | process (line : String) (delegate : Option (List String))
  | attach
  | detach
  | list (name : String)
  | submit (line : String)
  /-- An entry that the host wants to see on the console. -/
  | announce (entry : LogEntry)
  /-- An entry in the log of the host, by somebody else. Its message may be missing. -/
  | hostLog (severity : Severity) (target : String) (message : Option String)
  | styleTerminal (style : Terminal.Style)
  | save (path : String)
  | load (path : String)
  | update

/-- What comes of it. -/
inductive Answer
  | done
  | operated (result : Except Problem (Option Transition))
  | truth (value : Bool)
  | processed (report : Report) (received : List Command)
  | listed (names : List String)
  | saved (text : Except Config.Failure String)
  | loaded (config : Except Config.Failure Config)
  | updated (update : Update)

/-- Whether an entry is shown when it is heard with a threshold. -/
def isShown (threshold : Severity) (e : LogEntry) : Bool :=
  e.severity.atLeast threshold && !e.isPrinted

/-- The session after entries were written to the log of the host. -/
def hear (entries : List LogEntry) (s : Session) : Session :=
  if s.capture then { s with heard := s.heard ++ entries.filter (isShown s.threshold) } else s

/-- What the console puts in front of the echo of a line. -/
def echoMark : String := "$ "

/-- Handles a submitted line: a blank one is passed over, any other is echoed and dispatched. -/
def handle (line : String) (s : Session) : Outcome Session Unit :=
  if Text.isBlank line then { answer := (), state := s }
  else
    let echoed := s.console.append ⟨.command, echoMark ++ line⟩
    let run := dispatch Console.facade s.registry s.forwarder.delegate line echoed
    let count := run.report.problems.length
    { answer := ()
      state := { s with console := run.state, forwarder := s.forwarder.receive run.forwarded }
      log :=
        run.log ++
          if count = 0 then [] else [LogSource.session.entry .debug s!"'{line}' reported {count} error(s)"] }

/-- Handles lines, one after the other. -/
def handleAll (lines : List String) (s : Session) : Outcome Session Unit :=
  lines.foldl
    (fun before line =>
      let after := before.state.handle line
      { after with log := before.log ++ after.log })
    { answer := (), state := s }

/-- Appends the output lines for log entries. -/
def showEntries (entries : List LogEntry) (s : Session) : Session :=
  { s with console := entries.foldl (fun c e => c.append e.line) s.console }

/-- Empties the queues. -/
def drain (s : Session) : (Delivery × List Command) × Session :=
  let (delivery, console) := s.console.drain
  let (commands, forwarder) := s.forwarder.drain
  ((delivery, commands), { s with console, forwarder })

/-- Passes on what was heard, for the next frame to show it. -/
def passOn (s : Session) : Session :=
  { s with announced := s.announced ++ s.heard, heard := [] }

/-- One frame. Announced entries are shown, submitted lines are handled, the host is told what is in the queues, and at last what was
heard is passed on. -/
def frame (s : Session) : Outcome Session Update :=
  let shown := { s.showEntries s.announced with announced := [] }
  let handled := ({ shown with submitted := [] }).handleAll shown.submitted
  let ((delivery, commands), drained) := handled.state.drain
  { answer := { delivery, commands, written := Terminal.write s.style delivery.lifecycle delivery.outputs }
    state := (drained.hear handled.log).passOn
    log := handled.log }

/-- An update: two frames. The first one handles the submitted lines, and the second one shows what was heard up to then. -/
def update (s : Session) : Outcome Session Update :=
  let first := s.frame
  let second := first.state.frame
  { answer := first.answer.append second.answer, state := second.state, log := first.log ++ second.log }

/-- Replaces the settings by those of a configuration and adds its names to the registry. -/
def apply (config : Config) (s : Session) : Outcome Session Unit :=
  let added := config.addTo s.registry
  { answer := ()
    state := { s with console := config.applyTo s.console, registry := added.state }
    log := added.log }

/-- The configuration of the session. -/
def config (s : Session) : Config :=
  .capture s.console s.registry

/-- The outcome with its entries heard. -/
def listen {α : Type} (o : Outcome Session α) : Outcome Session α :=
  { o with state := o.state.hear o.log }

/-- An outcome that leaves nothing in the log of the host. -/
def quietly (answer : Answer) (s : Session) : Outcome Session Answer :=
  { answer, state := s }

/-- The session after an event, with the answer to it. -/
def perform (event : Event) (s : Session) : Outcome Session Answer :=
  match event with
  | .operate op =>
    let o := s.console.perform op
    listen { answer := .operated o.answer, state := { s with console := o.state }, log := o.log }
  | .register name =>
    let o := s.registry.register name
    listen { answer := .truth o.answer, state := { s with registry := o.state }, log := o.log }
  | .unregister name =>
    let o := s.registry.unregister name
    listen { answer := .truth o.answer, state := { s with registry := o.state }, log := o.log }
  | .process line delegate =>
    let run := dispatch Console.facade s.registry delegate line s.console
    listen { answer := .processed run.report run.forwarded, state := { s with console := run.state }, log := run.log }
  | .attach => quietly (.truth true) { s with forwarder := { s.forwarder with attached := true } }
  | .detach => quietly (.truth false) { s with forwarder := { s.forwarder with attached := false } }
  | .list name =>
    let forwarder := s.forwarder.list name
    quietly (.listed forwarder.names) { s with forwarder }
  | .submit line => quietly .done { s with submitted := s.submitted ++ [line] }
  | .announce entry => quietly .done { s with announced := s.announced ++ [entry] }
  | .hostLog severity target message =>
    quietly .done (s.hear (message.toList.map fun text => ⟨severity, target, text⟩))
  | .styleTerminal style => quietly .done { s with style }
  | .save path =>
    let (saved, directory) := s.config.save s.directory path
    quietly (.saved (saved.map fun () => s.config.print)) { s with directory }
  | .load path =>
    match Config.load s.directory path with
    | .error failure => quietly (.loaded (.error failure)) s
    | .ok config =>
      let o := s.apply config
      listen { answer := .loaded (.ok config), state := o.state, log := o.log }
  | .update =>
    let o := s.update
    { answer := .updated o.answer, state := o.state, log := o.log }

/-- Loads the settings file at the start, if there is one. -/
def loadAtStart (path : String) (s : Session) : Outcome Session Unit :=
  if s.directory.contains path then
    match Config.load s.directory path with
    | .ok config =>
      let o := s.apply config
      { o with log := o.log ++ [LogSource.settingsFile.entry .info s!"Loaded console config from '{path}'"] }
    | .error failure =>
      { answer := (), state := s
        log := [LogSource.settingsFile.entry .warn s!"Failed to load console config: {failure.message}"] }
  else { answer := (), state := s }

/-- Sets the console up at the start, if that is asked for. -/
def setUpAtStart (setup : Option (Mount × Dock)) (s : Session) : Outcome Session Unit :=
  match setup with
  | none => { answer := (), state := s }
  | some (mount, dock) =>
    let o := s.console.move (.setup mount dock)
    { answer := ()
      state := { s with console := o.state }
      log :=
        o.log ++
          [match o.answer with
            | .ok t => LogSource.session.entry .info s!"Console ready, docked {t.dock.name}"
            | .error p => LogSource.session.entry .warn s!"Console setup refused: {p.message}"] }

/-- A session before anything has happened in it. -/
def initial (l : Launch) : Session :=
  let console : Console := { settings := l.settings, canMail := l.canMail }
  { console := l.capacity.elim console fun n => console.recap n
    style := l.style
    directory := l.directory
    capture := l.capture
    threshold := l.threshold
    submitted := Terminal.submitted l.typed }

/-- A session when it has started: the settings file is loaded, then the console is set up. -/
def started (l : Launch) : Outcome Session Unit :=
  let loaded := listen ((initial l).loadAtStart l.configPath)
  let ready := listen (loaded.state.setUpAtStart l.setup)
  { ready with log := loaded.log ++ ready.log }

/-- Starts a session and makes a first update. -/
def start (l : Launch) : Outcome Session Update :=
  let ready := started l
  let updated := ready.state.update
  { updated with log := ready.log ++ updated.log }

end Session

end DebugConsole
