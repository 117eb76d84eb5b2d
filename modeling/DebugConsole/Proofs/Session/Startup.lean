import DebugConsole.Proofs.Config.Application
import DebugConsole.Proofs.Console.Operation
import DebugConsole.Proofs.Session.Update

/-!
# The start of a session

What a session is when it has started depends on its launch and on what becomes of the settings file. `startedWith` takes the latter
as it is given: there is no file, or it cannot be loaded for some reason, whichever it is, or it holds a configuration. `started` is
this start with the file of the launch (`started_eq`).

The settings are in force before the console is set up, and a console that was never set up is not reset by a setup
(`Console.state_setup_initial`). So the start is told by one event, if by any (`start_composed`).
-/

namespace DebugConsole

namespace Console

/-- A console after the first setup, if there is one. Its panel is mounted, which is told by one event, unless the environment is live. -/
def setUpFirst (setup : Option (Mount × Dock)) (c : Console) : Console :=
  match setup with
  | none => c
  | some (mount, dock) =>
    if c.settings.liveEnvironment then c
    else
      { c with
        panel := .mounted mount dock
        queue := { c.queue with lifecycle := c.queue.lifecycle ++ [.ready] } }

theorem setUpFirst_none (c : Console) : c.setUpFirst none = c := rfl

theorem setUpFirst_of_live {c : Console} (live : c.settings.liveEnvironment = true) (setup : Option (Mount × Dock)) :
    c.setUpFirst setup = c := by
  cases setup with
  | none => rfl
  | some asked => exact if_pos live

theorem setUpFirst_some {c : Console} (live : c.settings.liveEnvironment = false) (mount : Mount) (dock : Dock) :
    c.setUpFirst (some (mount, dock)) =
      { c with
        panel := .mounted mount dock
        queue := { c.queue with lifecycle := c.queue.lifecycle ++ [.ready] } } :=
  if_neg (Bool.eq_false_iff.1 live)

/-- That is what a setup does to a console that was never set up. -/
theorem state_setup_initial {c : Console} (fresh : c.panel = .initial) (mount : Mount) (dock : Dock) :
    (c.move (.setup mount dock)).state = c.setUpFirst (some (mount, dock)) := by
  by_cases live : c.settings.liveEnvironment = true
  · rw [move_setup_of_live live, setUpFirst_of_live live]
  · have detached : c.panel.isReady = false := by
      rw [fresh]
      rfl
    rw [state_setup (Bool.eq_false_iff.2 live), detached, if_neg Bool.false_ne_true,
      setUpFirst_some (Bool.eq_false_iff.2 live)]
    rfl

/-- What the first setup, if there is one, brings a new panel to, and what it adds to the queue. -/
structure SetUpFirst (setup : Option (Mount × Dock)) (c d : Console) : Prop where
  ready : d.panel.isReady = true ↔ setup.isSome = true ∧ c.settings.liveEnvironment = false
  mounted : ∀ mount dock, setup = some (mount, dock) → d.panel.isReady = true →
    Panel.initial.step (.setup mount dock) = .ok d.panel
  detached : d.panel.isReady = false → d.panel = .initial
  queue : d.queue = { c.queue with lifecycle := c.queue.lifecycle ++ if d.panel.isReady then [.ready] else [] }

theorem setUpFirst_spec {c : Console} (fresh : c.panel = .initial) (setup : Option (Mount × Dock)) :
    SetUpFirst setup c (c.setUpFirst setup) := by
  have detached : c.panel.isReady = false := by
    rw [fresh]
    rfl
  have queue : c.queue = { c.queue with lifecycle := c.queue.lifecycle ++ if c.panel.isReady then [.ready] else [] } := by
    rw [detached, if_neg Bool.false_ne_true, List.append_nil]
  by_cases live : c.settings.liveEnvironment = true
  · rw [setUpFirst_of_live live]
    exact ⟨by simp [detached, live], fun _ _ _ ready => by simp [detached] at ready, fun _ => fresh, queue⟩
  · match setup with
    | none => exact ⟨by simp [setUpFirst_none, detached], nofun, fun _ => fresh, queue⟩
    | some (mount, dock) =>
      have ready : (Panel.mounted mount dock).isReady = true := by
        cases mount <;> rfl
      rw [setUpFirst_some (Bool.eq_false_iff.2 live)]
      refine ⟨by simp [ready, live], ?_, fun unready => by simp [ready] at unready, by simp [ready]⟩
      rintro _ _ ⟨⟩ -
      rfl

/-- A setup leaves alone all but the panel and the queue. -/
theorem setUpFirst_frame (setup : Option (Mount × Dock)) (c : Console) :
    ∃ panel queue, c.setUpFirst setup = { c with panel, queue } := by
  by_cases live : c.settings.liveEnvironment = true
  · exact ⟨c.panel, c.queue, setUpFirst_of_live live setup⟩
  · match setup with
    | none => exact ⟨c.panel, c.queue, rfl⟩
    | some (mount, dock) => exact ⟨_, _, setUpFirst_some (Bool.eq_false_iff.2 live) mount dock⟩

end Console

/-- What becomes of the settings file of a launch: nothing if there is none, else its configuration, or in words why it cannot be
loaded. -/
def Launch.file (l : Launch) : Option (Except String Config) :=
  if l.directory.contains l.configPath then
    some ((Config.load l.directory l.configPath).mapError Config.Failure.message)
  else none

/-- The configuration that a session starts with: that of the file if it could be loaded, else the settings of the launch. -/
def Launch.config (l : Launch) : Option (Except String Config) → Config
  | some (.ok config) => config
  | _ => { settings := l.settings }

namespace Session

/-- The warning about a settings file that cannot be loaded. -/
def unloadable (why : String) : LogEntry :=
  LogSource.settingsFile.entry .warn s!"Failed to load console config: {why}"

/-- A session after it has learned what becomes of its settings file. -/
def takeIn (path : String) (s : Session) : Option (Except String Config) → Outcome Session Unit
  | none => { answer := (), state := s }
  | some (.ok config) =>
    let o := s.apply config
    { o with log := o.log ++ [LogSource.settingsFile.entry .info s!"Loaded console config from '{path}'"] }
  | some (.error why) => { answer := (), state := s, log := [unloadable why] }

/-- A session when it has started, with a settings file of which something is given to become. -/
def startedWith (l : Launch) (file : Option (Except String Config)) : Outcome Session Unit :=
  let loaded := listen ((initial l).takeIn l.configPath file)
  let ready := listen (loaded.state.setUpAtStart l.setup)
  { ready with log := loaded.log ++ ready.log }

/-- A session starts with what becomes of the file of its launch. -/
theorem started_eq (l : Launch) : started l = startedWith l l.file := by
  have loaded : (initial l).loadAtStart l.configPath = (initial l).takeIn l.configPath l.file := by
    have directory : (initial l).directory = l.directory := rfl
    unfold loadAtStart Launch.file
    rw [directory]
    split
    · cases Config.load l.directory l.configPath <;> rfl
    · rfl
  unfold started startedWith
  rw [loaded]

/-- What was heard has no part in the setup at the start. -/
theorem setUpAtStart_heard (setup : Option (Mount × Dock)) (s : Session) (entries : List LogEntry) :
    { s with heard := entries }.setUpAtStart setup =
      { s.setUpAtStart setup with state := { (s.setUpAtStart setup).state with heard := entries } } := by
  cases setup <;> rfl

/-- Whatever becomes of the file, the settings and the names are those to start with, and nothing else has changed but what was heard. -/
theorem state_takeIn (l : Launch) (file : Option (Except String Config)) :
    ((initial l).takeIn l.configPath file).state =
      { initial l with
        console := (initial l).console.withSettings (l.config file).settings
        registry.names := ((l.config file).userCommands.map Text.lowercase).eraseDups } := by
  have untouched : (initial l).console.withSettings l.settings = (initial l).console := by
    unfold initial
    cases l.capacity <;> rfl
  match file with
  | none =>
    show initial l = { initial l with console := (initial l).console.withSettings l.settings, registry.names := [] }
    rw [untouched]
    rfl
  | some (.error why) =>
    show initial l = { initial l with console := (initial l).console.withSettings l.settings, registry.names := [] }
    rw [untouched]
    rfl
  | some (.ok config) =>
    have applied := state_apply (s := initial l) Registry.orderly_empty config
    have names : (initial l).registry.names = [] := rfl
    have all : ((config.userCommands.map Text.lowercase).filter fun n => n ∉ ([] : List String)) =
        config.userCommands.map Text.lowercase :=
      List.filter_eq_self.2 fun n _ => decide_eq_true List.not_mem_nil
    rw [names, all] at applied
    exact applied

/-- The first setup of a session concerns its console alone. -/
theorem state_setUpAtStart {s : Session} (fresh : s.console.panel = .initial) (setup : Option (Mount × Dock)) :
    (s.setUpAtStart setup).state = { s with console := s.console.setUpFirst setup } := by
  match setup with
  | none => rfl
  | some (mount, dock) =>
    rw [← Console.state_setup_initial fresh]
    rfl

/-- A session has started when the settings are in force and the console is set up. -/
theorem state_startedWith (l : Launch) (file : Option (Except String Config)) :
    (startedWith l file).state =
      { initial l with
        console := ((initial l).console.withSettings (l.config file).settings).setUpFirst l.setup
        registry.names := ((l.config file).userCommands.map Text.lowercase).eraseDups
        heard := (startedWith l file).state.heard } := by
  have fresh : (initial l).console.panel = .initial := by
    unfold initial
    cases l.capacity <;> rfl
  simp only [startedWith, listen, hear_eq, state_takeIn]
  rw [state_setUpAtStart (by exact fresh)]

/-- A file that cannot be loaded leaves the session as it is without a file, but for a warning. -/
theorem startedWith_unloadable (l : Launch) (why : String) :
    (startedWith l (some (.error why))).log = unloadable why :: (startedWith l none).log ∧
      (startedWith l (some (.error why))).state =
        { (startedWith l none).state with heard := (startedWith l (some (.error why))).state.heard } := by
  refine ⟨?_, ?_⟩
  · simp only [startedWith, listen, takeIn, hear_eq, setUpAtStart_heard]
    rfl
  · rw [state_startedWith, state_startedWith l none]
    rfl

/-- The start composes the launch with the settings file, whatever becomes of it: there is none, it cannot be loaded for any reason, or
it holds a configuration. The settings and the names are those of the file if it could be loaded, the names in lower case, in their
order and each of them once; else the settings are those of the launch and there are no names. With these settings, the console is
ready if a setup was asked for and the environment is not live. Then its panel is where the setup brings a new one and the host is to
be told of it by one event; else the panel is a new one and nothing is to be told. A file that cannot be loaded makes no difference to
no file but a warning in the log of the host, which may be heard. -/
theorem start_composed (l : Launch) (file : Option (Except String Config)) :
    let config := l.config file
    let session := (startedWith l file).state
    let console := session.console
    started l = startedWith l l.file ∧
      console.settings = config.settings ∧
      session.registry.names = (config.userCommands.map Text.lowercase).eraseDups ∧
      (console.panel.isReady = true ↔ l.setup.isSome = true ∧ config.settings.liveEnvironment = false) ∧
      (∀ mount dock, l.setup = some (mount, dock) → console.panel.isReady = true →
        Panel.initial.step (.setup mount dock) = .ok console.panel) ∧
      (console.panel.isReady = false → console.panel = .initial) ∧
      console.queue = { lifecycle := if console.panel.isReady then [.ready] else [] } ∧
      console.lines = [] ∧ console.canMail = l.canMail ∧
      ∀ why,
        let absent := startedWith l none
        let failed := startedWith l (some (.error why))
        failed.log = unloadable why :: absent.log ∧ failed.state = { absent.state with heard := failed.state.heard } := by
  intro config session console
  have state := state_startedWith l file
  have same : console = ((initial l).console.withSettings config.settings).setUpFirst l.setup := congrArg Session.console state
  obtain ⟨panel, lines, canMail, queue⟩ : (initial l).console.panel = .initial ∧ (initial l).console.lines = [] ∧
      (initial l).console.canMail = l.canMail ∧ (initial l).console.queue = {} := by
    unfold initial
    cases l.capacity <;> exact ⟨rfl, rfl, rfl, rfl⟩
  have setUp := Console.setUpFirst_spec (c := (initial l).console.withSettings config.settings) panel l.setup
  rw [← same] at setUp
  obtain ⟨panel', queue', frame⟩ := Console.setUpFirst_frame l.setup ((initial l).console.withSettings config.settings)
  rw [← same] at frame
  refine ⟨started_eq l, ?_, congrArg (fun s => s.registry.names) state, setUp.ready, setUp.mounted, setUp.detached, ?_, ?_, ?_,
    startedWith_unloadable l⟩
  · rw [frame]
    rfl
  · have told := setUp.queue
    rw [Console.withSettings, queue] at told
    exact told
  · rw [frame]
    exact lines
  · rw [frame]
    exact canMail

/-- A folder in the place of the file cannot be loaded, so the setup goes ahead with the settings of the launch. -/
theorem start_composed_of_folder :
    let l : Launch := { setup := some (.textPopover, .left), directory := ⟨[([Config.defaultPath], .folder)]⟩ }
    let console := (started l).state.console
    let why := "IO error for 'overlay_console.ron': Is a directory (os error 21)"
    l.file = some (.error why) ∧ console.settings = {} ∧ console.panel.isReady = true ∧
      Panel.initial.step (.setup .textPopover .left) = .ok console.panel ∧ console.queue = { lifecycle := [.ready] } ∧
      (started l).log = unloadable why :: (started { l with directory := {} }).log := by
  intro l console why
  have file : l.file = some (.error why) := by decide +kernel
  have absent : Launch.file { l with directory := {} } = none := by decide +kernel
  obtain ⟨started, settings, -, ready, mounted, -, queue, -, -, failed⟩ := start_composed l l.file
  have live : (l.config l.file).settings = {} := by rw [file]; rfl
  rw [← started] at settings ready mounted queue
  have isReady : console.panel.isReady = true := ready.2 ⟨rfl, by rw [live]⟩
  refine ⟨file, settings.trans live, isReady, mounted .textPopover .left rfl isReady, ?_, ?_⟩
  · exact queue.trans (by rw [isReady, if_pos rfl])
  · rw [started, file, started_eq, absent]
    exact (failed why).1

/-- The file may say that the environment is live, and then the setup is refused. -/
example :
    let text := "(settings: (live_environment: true), user_commands: [\"Ping\", \"Spawn\", \"PING\"])"
    let l : Launch := { setup := some (.textPopover, .left), directory := ⟨[([Config.defaultPath], .file text)]⟩ }
    (started l).state.console = { settings := { liveEnvironment := true } } ∧
      (started l).state.registry.names = ["ping", "spawn"] := by
  decide +kernel

end Session

end DebugConsole
