import DebugConsole.Proofs.Console.Buffer
import DebugConsole.Proofs.Session.Update

/-!
# The history of a session

A `Session.History` is a session with all that was emitted into the log of the host since its start, and all that was done to the buffer
of its console: every line that was appended, cleared away or told, in order. A line that was appended because capture had passed on its
entry is marked. Frames may come one by one in a history, with other events between them, and an update is two of them.

The history only watches: its session is what the events and frames make of it (`History.session_run`), and the lines and the capacity of
the console and the lines queued for the host are exactly what was done to them (`History.revised_run`).
-/

namespace DebugConsole

/-! ## What is done to a buffer -/

namespace Console

namespace Revision

/-- The lines queued for the host after a revision. -/
def queue (outputs : List Line) : Revision → List Line
  | append l => outputs ++ [l]
  | clear | drain => []
  | recap _ => outputs

/-- The line that a revision appends, if it appends one. -/
def line? : Revision → Option Line
  | append l => some l
  | _ => none

end Revision

/-- Revisions that lead from a console to another one: its lines, its capacity and the lines queued for the host are what they make of
those of the first one. -/
structure Revised (c : Console) (revisions : List Revision) (d : Console) : Prop where
  buffer : (d.lines, d.capacity) = revisions.foldl Revision.revise (c.lines, c.capacity)
  outputs : d.queue.outputs = revisions.foldl Revision.queue c.queue.outputs

namespace Revised

variable {c d e : Console}

/-- What touches neither the buffer nor the queued lines is no revision. -/
theorem nothing (lines : d.lines = c.lines) (capacity : d.capacity = c.capacity)
    (outputs : d.queue.outputs = c.queue.outputs) : Revised c [] d := by
  refine ⟨?_, outputs⟩
  rw [lines, capacity]
  rfl

theorem refl (c : Console) : Revised c [] c :=
  nothing rfl rfl rfl

/-- Revisions may be made one after the other. -/
theorem trans {revisions later : List Revision} (first : Revised c revisions d) (second : Revised d later e) :
    Revised c (revisions ++ later) e := by
  refine ⟨?_, ?_⟩
  · rw [List.foldl_append, ← first.buffer]
    exact second.buffer
  · rw [List.foldl_append, ← first.outputs]
    exact second.outputs

/-- A console that is emptied was cleared. -/
theorem cleared (lines : d.lines = []) (capacity : d.capacity = c.capacity) (outputs : d.queue.outputs = []) :
    Revised c [.clear] d := by
  refine ⟨?_, outputs⟩
  rw [lines, capacity]
  rfl

theorem append (l : Line) (c : Console) : Revised c [.append l] (c.append l) :=
  ⟨congrArg (·, c.capacity) (appended_eq_rtake c.lines c.capacity_pos l), rfl⟩

theorem appendAll (lines : List Line) (c : Console) : Revised c (lines.map .append) (c.appendAll lines) := by
  induction lines generalizing c with
  | nil => exact refl c
  | cons l lines ih => exact (append l c).trans (ih (c.append l))

theorem drain (c : Console) : Revised c [.drain] c.drain.2 :=
  ⟨rfl, rfl⟩

/-- A move of the panel is no revision. -/
theorem movePanel (m : Move) (c : Console) : Revised c [] (c.movePanel m).2 :=
  nothing (lines_movePanel m c) (capacity_movePanel m c) (outputs_movePanel m c)

theorem reset (c : Console) : Revised c [.clear] c.reset.2 :=
  cleared rfl rfl rfl

end Revised

/-- What an operation does to the buffer. A console that is set up again is reset first, unless that is refused. -/
def Op.revisions (op : Op) (c : Console) : List Revision :=
  match op with
  | .print destination line => if destination = .hostOnly then [] else [.append line]
  | .clear | .move .reset => [.clear]
  | .move (.setup _ _) | .setupPinned _ _ _ =>
    if c.panel.isReady = true ∧ c.settings.liveEnvironment = false then [.clear] else []
  | .recap n => [.recap n]
  | _ => []

/-- What some operations do to it, carried out one after the other. -/
def revisionsAll : List Op → Console → List Revision
  | [], _ => []
  | op :: ops, c => op.revisions c ++ revisionsAll ops (c.perform op).state

namespace Revised

theorem setup (mount : Mount) (dock : Dock) (c : Console) :
    Revised c ((Op.move (.setup mount dock)).revisions c) (c.move (.setup mount dock)).state := by
  unfold Op.revisions
  by_cases live : c.settings.liveEnvironment = true
  · rw [if_neg (by simp [live]), move_setup_of_live live]
    exact refl c
  · rw [state_setup (Bool.eq_false_iff.2 live)]
    by_cases ready : c.panel.isReady = true
    · rw [if_pos ready, if_pos ⟨ready, Bool.eq_false_iff.2 live⟩]
      exact (reset c).trans (movePanel _ _)
    · rw [if_neg ready, if_neg fun both => ready both.1]
      exact movePanel _ c

/-- Every operation does to the buffer what is said of it. -/
theorem perform (op : Op) (c : Console) : Revised c (op.revisions c) (c.perform op).state := by
  cases op with
  | print destination line =>
    cases destination with
    | hostOnly => exact refl c
    | console => exact append line c
    | both => exact append line c
  | move m =>
    cases m with
    | setup mount dock => exact setup mount dock c
    | reset => exact reset c
    | openPanel => exact movePanel .openPanel c
    | closePanel => exact movePanel .closePanel c
    | enterFullscreen => exact movePanel .enterFullscreen c
    | exitFullscreen newDock => exact movePanel (.exitFullscreen newDock) c
    | remove => exact movePanel .remove c
  | setupPinned mount corner size =>
    obtain ⟨settings, pinned⟩ := state_setupPinned mount corner size c
    rw [pinned]
    obtain ⟨buffer, outputs⟩ := setup mount .usual c
    exact ⟨buffer, outputs⟩
  | clear => exact cleared rfl rfl rfl
  | recap n => exact ⟨rfl, rfl⟩
  | _ => exact nothing rfl rfl rfl

theorem performAll (ops : List Op) (c : Console) : Revised c (revisionsAll ops c) (c.performAll ops) := by
  induction ops generalizing c with
  | nil => exact refl c
  | cons op ops ih => exact (perform op c).trans (ih (c.perform op).state)

end Revised

end Console

/-! ## What a session emits and does to its buffer -/

/-- An event in the log of the host. It may come without a message. -/
structure HostEvent where
  severity : Severity
  target : String
  message : Option String
deriving DecidableEq, Repr

namespace HostEvent

/-- The event for an entry of the log. -/
def ofEntry (e : LogEntry) : HostEvent :=
  ⟨e.severity, e.target, some e.message⟩

/-- The output line that shows an event. There is one if the event has a message. -/
def line? (e : HostEvent) : Option Line :=
  e.message.map fun text => LogEntry.line ⟨e.severity, e.target, text⟩

end HostEvent

namespace Session

/-- What is emitted into the log of the host in an event, by the host itself or by the console. -/
def emits (event : Event) (s : Session) : List HostEvent :=
  match event with
  | .hostLog severity target message => [⟨severity, target, message⟩]
  | event => (s.perform event).log.map HostEvent.ofEntry

/-- What submitted lines do to the buffer while they are handled. -/
def handlingRevisions : List String → Session → List Console.Revision
  | [], _ => []
  | line :: lines, s =>
    Console.revisionsAll ((Console.Step.submit s.registry s.forwarder line).ops s.console) s.console ++
      handlingRevisions lines (s.handle line).state

/-- What an event other than an update does to the buffer. -/
def revisions (event : Event) (s : Session) : List Console.Revision :=
  match event with
  | .operate op => op.revisions s.console
  | .process line delegate => Console.revisionsAll ((Console.Step.process s.registry delegate line).ops s.console) s.console
  | _ => []

theorem revised_handleAll (lines : List String) (s : Session) :
    s.console.Revised (handlingRevisions lines s) (s.handleAll lines).state.console := by
  induction lines generalizing s with
  | nil => exact .refl s.console
  | cons line lines ih =>
    have first := Console.Revised.performAll ((Console.Step.submit s.registry s.forwarder line).ops s.console) s.console
    rw [← console_handle] at first
    rw [handleAll_cons]
    exact first.trans (ih (s.handle line).state)

/-- An entry that is heard does not touch the console. -/
@[simp]
theorem console_hear (entries : List LogEntry) (s : Session) : (s.hear entries).console = s.console := by
  rw [hear_eq]

theorem revised_perform {event : Event} (h : event ≠ .update) (s : Session) :
    s.console.Revised (s.revisions event) (s.perform event).state.console := by
  cases event with
  | operate op =>
    simp only [perform, listen, console_hear]
    exact .perform op s.console
  | process line delegate =>
    simp only [perform, listen, console_hear, Console.state_dispatch]
    exact .performAll _ s.console
  | update => exact absurd rfl h
  | load path =>
    simp only [perform]
    split
    · exact .refl s.console
    · simp only [listen, console_hear]
      exact .nothing rfl rfl rfl
  | _ =>
    simp only [perform, listen, quietly, console_hear]
    exact .refl s.console

/-- In every event but an update, entries are announced behind those that wait already. -/
theorem announced_perform {event : Event} (h : event ≠ .update) (s : Session) :
    s.announced <+: (s.perform event).state.announced := by
  cases event with
  | update => exact absurd rfl h
  | announce entry => exact List.prefix_append _ _
  | load path =>
    simp only [perform]
    split
    · exact List.prefix_refl _
    · simp only [listen, hear_eq]
      exact List.prefix_refl _
  | _ =>
    simp only [perform, listen, quietly, hear_eq]
    exact List.prefix_refl _

/-- A frame appends the announced entries, does what its lines do, and tells all of it. -/
theorem revised_frame (s : Session) :
    s.console.Revised
        ((s.announced.map LogEntry.line).map .append ++ handlingRevisions s.submitted s.announcedShown)
        s.handled.state.console ∧
      s.handled.state.console.Revised [.drain] s.frame.state.console := by
  refine ⟨(Console.Revised.appendAll _ s.console).trans (revised_handleAll s.submitted s.announcedShown), ?_⟩
  rw [frame_eq]
  exact .drain _

/-- While a session starts, the settings of its console may be replaced and its panel may be moved. What the initial console has and
both of these keep, the console has then. -/
theorem started_induction {P : Console → Prop} {l : Launch} (start : P (initial l).console)
    (configure : ∀ c settings, P c → P (c.withSettings settings)) (move : ∀ c m, P c → P (c.move m).state) :
    P (started l).state.console := by
  have loaded : P ((initial l).loadAtStart l.configPath).state.console := by
    unfold loadAtStart
    split
    · split
      · exact configure _ _ start
      · exact start
    · exact start
  simp only [started, listen, console_hear]
  unfold setUpAtStart
  cases l.setup with
  | none =>
    simp only [console_hear]
    exact loaded
  | some setup =>
    simp only [console_hear]
    exact move _ _ loaded

/-! ## Histories -/

/-- Something that is done to the buffer, and whether this was to show an entry that capture had passed on. -/
structure Change where
  revision : Console.Revision
  byCapture : Bool
deriving DecidableEq

/-- A line that was appended, and whether this was done to show a captured entry. -/
structure Appending where
  line : Line
  byCapture : Bool
deriving DecidableEq, Repr

namespace Change

/-- What is done to the buffer for other reasons than capture. -/
def own (revisions : List Console.Revision) : List Change :=
  revisions.map fun r => ⟨r, false⟩

/-- The line that is appended, if one is. -/
def appending? (c : Change) : Option Appending :=
  c.revision.line?.map fun line => ⟨line, c.byCapture⟩

/-- The lines that are appended because of capture. -/
def captured (changes : List Change) : List Line :=
  ((changes.filterMap appending?).filter Appending.byCapture).map Appending.line

theorem captured_append (changes later : List Change) : captured (changes ++ later) = captured changes ++ captured later := by
  simp only [captured, List.filterMap_append, List.filter_append, List.map_append]

@[simp]
theorem captured_own (revisions : List Console.Revision) : captured (own revisions) = [] := by
  unfold captured own
  rw [List.map_eq_nil_iff, List.filter_eq_nil_iff]
  intro a ha
  obtain ⟨change, member, made⟩ := List.mem_filterMap.1 ha
  obtain ⟨r, -, rfl⟩ := List.mem_map.1 member
  obtain ⟨line, -, rfl⟩ := Option.map_eq_some_iff.1 made
  exact Bool.false_ne_true

@[simp]
theorem revision_own (revisions : List Console.Revision) : (own revisions).map Change.revision = revisions := by
  simp only [own, List.map_map, Function.comp_def, List.map_id']

end Change

/-- What comes next in the history of a session: an event, or a single frame. -/
inductive Moment
  | event (event : Event)
  | frame

/-- The session after an event or a frame. -/
def pass (s : Session) : Moment → Session
  | .event event => (s.perform event).state
  | .frame => s.frame.state

/-- A session with all that happened to the log of the host and to the buffer of its console. -/
structure History where
  session : Session
  /-- Of the entries that wait to be shown, those that capture has passed on. They come first. -/
  passedOn : List LogEntry := []
  /-- What was emitted into the log of the host, the oldest first. -/
  emitted : List HostEvent := []
  /-- What was done to the buffer, the oldest first. -/
  changes : List Change := []

namespace History

/-- The history of a session that has just started. -/
def start (l : Launch) : History :=
  { session := (started l).state, emitted := (started l).log.map HostEvent.ofEntry }

/-- What the next frame does to the buffer before it tells the host. -/
def made (h : History) : List Change :=
  h.passedOn.map (fun e => ⟨.append e.line, true⟩) ++
    (Change.own ((h.session.announced.drop h.passedOn.length).map fun e => .append e.line) ++
      Change.own (handlingRevisions h.session.submitted h.session.announcedShown))

/-- The history after a frame. -/
def frame (h : History) : History :=
  { session := h.session.frame.state
    passedOn := h.session.frame.state.announced
    emitted := h.emitted ++ h.session.frame.log.map HostEvent.ofEntry
    changes := h.changes ++ (h.made ++ Change.own [.drain]) }

/-- The history after an event or a frame. An update is two frames. -/
def after (moment : Moment) (h : History) : History :=
  match moment with
  | .frame => h.frame
  | .event .update => h.frame.frame
  | .event event =>
    { session := (h.session.perform event).state
      passedOn := h.passedOn
      emitted := h.emitted ++ h.session.emits event
      changes := h.changes ++ Change.own (h.session.revisions event) }

/-- The history after some events and frames, the first one first. -/
def run (moments : List Moment) (h : History) : History :=
  moments.foldl (fun h moment => h.after moment) h

@[simp]
theorem run_nil (h : History) : h.run [] = h := rfl

@[simp]
theorem run_cons (moment : Moment) (moments : List Moment) (h : History) :
    h.run (moment :: moments) = (h.after moment).run moments := rfl

theorem run_append (moments later : List Moment) (h : History) : h.run (moments ++ later) = (h.run moments).run later := by
  simp only [run, List.foldl_append]

/-- What happens in an event other than an update. -/
theorem after_event {event : Event} (h : event ≠ .update) (history : History) :
    history.after (.event event) =
      { session := (history.session.perform event).state
        passedOn := history.passedOn
        emitted := history.emitted ++ history.session.emits event
        changes := history.changes ++ Change.own (history.session.revisions event) } := by
  cases event with
  | update => exact absurd rfl h
  | _ => rfl

/-- What every frame keeps and every event but an update, which is two frames, is kept by every run. -/
theorem run_induction {P : History → Prop} (frame : ∀ h, P h → P h.frame)
    (event : ∀ h event, event ≠ .update → P h → P (h.after (.event event))) (moments : List Moment) (h : History) (start : P h) :
    P (h.run moments) := by
  induction moments generalizing h with
  | nil => exact start
  | cons moment moments ih =>
    refine ih (h.after moment) ?_
    cases moment with
    | frame => exact frame h start
    | event e =>
      by_cases update : e = .update
      · subst update
        exact frame h.frame (frame h start)
      · exact event h e update start

/-- All lines that were appended, marked if this was because of capture. -/
def appended (h : History) : List Appending :=
  h.changes.filterMap Change.appending?

/-- All lines that were appended. -/
def lines (h : History) : List Line :=
  h.appended.map Appending.line

/-- The lines that were appended to show captured entries. -/
def captured (h : History) : List Line :=
  (h.appended.filter Appending.byCapture).map Appending.line

/-- All that was done to the buffer, whatever for. -/
def revisions (h : History) : List Console.Revision :=
  h.changes.map Change.revision

/-- A history does not interfere with its session. -/
theorem session_run (moments : List Moment) (h : History) : (h.run moments).session = moments.foldl pass h.session := by
  induction moments generalizing h with
  | nil => rfl
  | cons moment moments ih =>
    have same : (h.after moment).session = h.session.pass moment := by
      cases moment with
      | frame => rfl
      | event e => cases e <;> rfl
    rw [run_cons, ih, same, List.foldl_cons]

/-- A frame shows what capture has passed on. -/
theorem captured_frame (h : History) : h.frame.captured = h.captured ++ h.passedOn.map LogEntry.line := by
  have shown : Change.captured (h.passedOn.map fun e => ⟨.append e.line, true⟩) = h.passedOn.map LogEntry.line := by
    simp only [Change.captured, List.filterMap_map, Function.comp_def, Change.appending?, Console.Revision.line?, Option.map_some,
      List.filterMap_eq_map', List.filter_map, List.map_map, List.filter_true]
  show Change.captured (h.changes ++ (h.made ++ Change.own [.drain])) = _
  rw [made, Change.captured_append, Change.captured_append, Change.captured_append, Change.captured_append, shown,
    Change.captured_own, Change.captured_own, Change.captured_own, List.append_nil, List.append_nil, List.append_nil]
  rfl

/-- No other event shows anything because of capture. -/
theorem captured_event {event : Event} (update : event ≠ .update) (h : History) :
    (h.after (.event event)).captured = h.captured := by
  rw [after_event update]
  show Change.captured (h.changes ++ Change.own (h.session.revisions event)) = _
  rw [Change.captured_append, Change.captured_own, List.append_nil]
  rfl

/-! ## The history accounts for the console -/

/-- What was done to the buffer leads from a console to the one of the session, and the entries that capture has passed on are the first of
those that wait. -/
structure Exact (c : Console) (h : History) : Prop where
  revised : c.Revised h.revisions h.session.console
  passedOn : h.passedOn <+: h.session.announced

/-- In a frame the announced entries are shown, whoever has announced them. -/
theorem revisions_made {h : History} (passedOn : h.passedOn <+: h.session.announced) :
    h.made.map Change.revision =
      (h.session.announced.map LogEntry.line).map .append ++ handlingRevisions h.session.submitted h.session.announcedShown := by
  obtain ⟨later, announced⟩ := passedOn
  unfold made
  rw [← announced, List.drop_left]
  simp only [List.map_append, List.map_map, Change.revision_own, List.append_assoc, Function.comp_def]

theorem Exact.frame {c : Console} {h : History} (exact' : h.Exact c) : h.frame.Exact c := by
  obtain ⟨revised, passedOn⟩ := exact'
  obtain ⟨handled, told⟩ := revised_frame h.session
  refine ⟨?_, List.prefix_refl _⟩
  have all : h.frame.revisions = h.revisions ++ (h.made.map Change.revision ++ [.drain]) := by
    simp only [revisions, History.frame, List.map_append, Change.revision_own]
  rw [all, revisions_made passedOn]
  exact revised.trans (handled.trans told)

theorem Exact.event {c : Console} {h : History} (exact' : h.Exact c) {event : Event} (update : event ≠ .update) :
    (h.after (.event event)).Exact c := by
  obtain ⟨revised, passedOn⟩ := exact'
  rw [after_event update]
  refine ⟨?_, passedOn.trans (announced_perform update h.session)⟩
  have all : (h.changes ++ Change.own (h.session.revisions event)).map Change.revision =
      h.revisions ++ h.session.revisions event := by
    rw [List.map_append, Change.revision_own]
    rfl
  show c.Revised ((h.changes ++ Change.own (h.session.revisions event)).map Change.revision) _
  rw [all]
  exact revised.trans (revised_perform update h.session)

/-- The console of a session is empty at first. -/
theorem empty_initial (l : Launch) : (initial l).console.lines = [] ∧ (initial l).console.queue.outputs = [] := by
  unfold Session.initial
  cases l.capacity <;> exact ⟨rfl, rfl⟩

/-- Nothing is done to the buffer while a session starts. -/
theorem exact_start (l : Launch) : (start l).Exact (initial l).console := by
  obtain ⟨lines, outputs⟩ := empty_initial l
  refine ⟨?_, List.nil_prefix⟩
  apply started_induction (P := (initial l).console.Revised []) (.refl _)
  · intro c settings before
    exact ⟨before.buffer, before.outputs⟩
  · intro c m before
    -- What is empty already may be reset.
    have reset : (initial l).console.Revised [] c.reset.2 :=
      .nothing lines.symm (congrArg Prod.snd before.buffer) outputs.symm
    exact Console.move_induction m before reset fun d m _ same => same.trans (.movePanel m d)

/-- The history of every run accounts for the console. -/
theorem exact_run (l : Launch) (moments : List Moment) : ((start l).run moments).Exact (initial l).console :=
  run_induction (fun _ before => before.frame) (fun _ _ update before => before.event update) moments (start l) (exact_start l)

end History

end Session

end DebugConsole
