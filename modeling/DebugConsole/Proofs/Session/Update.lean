import DebugConsole.Proofs.Session.Handling

/-!
# Frames and updates

A frame shows the announced entries, handles the submitted lines and tells the host what is queued then; what was heard, while the lines
were handled and before, waits to be shown in the next frame (`frame_eq`). A frame without submitted lines leaves nothing in the log, so
nothing waits after it (`frame_of_unsubmitted`).

An update is two frames, and the second one is of that kind. `update_eq` says what both come to: the update tells what the session told in
the first one, with the lines of the captured entries behind its outputs. After an update nothing is left to do (`idle_update`), and a
frame or an update of such a session changes and tells nothing (`frame_of_idle`, `update_of_idle`).
-/

namespace DebugConsole

namespace Console

/-- Appends lines, one after the other. -/
def appendAll (lines : List Line) (c : Console) : Console :=
  lines.foldl (fun c l => c.append l) c

@[simp]
theorem appendAll_nil (c : Console) : c.appendAll [] = c := rfl

@[simp]
theorem appendAll_cons (l : Line) (lines : List Line) (c : Console) :
    c.appendAll (l :: lines) = (c.append l).appendAll lines := rfl

/-- Lines that are appended are queued for the host, and the rest of the queue stays. -/
theorem queue_appendAll (lines : List Line) (c : Console) :
    (c.appendAll lines).queue = { c.queue with outputs := c.queue.outputs ++ lines } := by
  induction lines generalizing c with
  | nil => rw [appendAll_nil, List.append_nil]
  | cons l lines ih =>
    rw [appendAll_cons, ih]
    simp only [append, List.append_assoc, List.singleton_append]

end Console

namespace Session

theorem showEntries_eq (entries : List LogEntry) (s : Session) :
    s.showEntries entries = { s with console := s.console.appendAll (entries.map LogEntry.line) } := by
  unfold showEntries Console.appendAll
  rw [List.foldl_map]

/-- With capture, the entries that are heard are those that are shown. -/
theorem hear_eq (entries : List LogEntry) (s : Session) :
    s.hear entries =
      { s with heard := s.heard ++ if s.capture then entries.filter (isShown s.threshold) else [] } := by
  unfold hear
  split
  · rfl
  · rw [List.append_nil]

/-- What a frame handles lines in: the announced entries are shown. -/
def announcedShown (s : Session) : Session :=
  { s with console := s.console.appendAll (s.announced.map LogEntry.line), announced := [], submitted := [] }

/-- The submitted lines of a frame, handled. -/
def handled (s : Session) : Outcome Session Unit :=
  s.announcedShown.handleAll s.submitted

/-- The entries that capture passes on in a frame: what was heard before it and while its lines were handled. -/
def captured (s : Session) : List LogEntry :=
  s.heard ++ if s.capture then s.handled.log.filter (isShown s.threshold) else []

/-- The handled lines of a frame have changed the console and what the forwarder has received. -/
theorem handled_frame (s : Session) :
    s.handled.state =
      { s with console := s.handled.state.console, forwarder := s.handled.state.forwarder, submitted := []
               announced := [] } := by
  obtain ⟨console, commands, frame⟩ := handleAll_frame s.submitted s.announcedShown
  unfold handled
  rw [frame]
  rfl

/-- A frame tells what is queued when the lines are handled, and announces the captured entries to the next frame. -/
theorem frame_eq (s : Session) :
    s.frame =
      let console := s.handled.state.console
      let forwarder := s.handled.state.forwarder
      { answer := {
          delivery := console.queue
          commands := forwarder.received
          written := Terminal.write s.style console.queue.lifecycle console.queue.outputs }
        state := { s with
          console := console.drain.2
          forwarder := forwarder.drain.2
          submitted := []
          announced := s.captured
          heard := [] }
        log := s.handled.log } := by
  have handled : (s.announcedShown).handleAll s.submitted = s.handled := rfl
  unfold announcedShown at handled
  simp only [frame, showEntries_eq, handled, drain, passOn, hear_eq]
  rw [handled_frame]
  rfl

/-- A frame without lines to handle shows the announced entries and tells them. Nothing is emitted in it, so nothing waits after it but
what was heard before. -/
theorem frame_of_unsubmitted {s : Session} (none : s.submitted = []) :
    s.frame =
      let lines := s.announced.map LogEntry.line
      let delivery := { s.console.queue with outputs := s.console.queue.outputs ++ lines }
      { answer := {
          delivery
          commands := s.forwarder.received
          written := Terminal.write s.style delivery.lifecycle delivery.outputs }
        state := { s with
          console := (s.console.appendAll lines).drain.2
          forwarder := s.forwarder.drain.2
          submitted := []
          announced := s.heard
          heard := [] } } := by
  have handled : s.handled = { answer := (), state := s.announcedShown } := by
    unfold Session.handled
    rw [none, handleAll_nil]
  have captured : s.captured = s.heard := by
    unfold Session.captured
    rw [handled, List.filter_nil, ite_self, List.append_nil]
  rw [frame_eq, handled, captured]
  simp only [announcedShown, Console.queue_appendAll]

/-- An update tells what is queued when the lines are handled, and then the lines of the captured entries. -/
theorem update_eq (s : Session) :
    s.update =
      let console := s.handled.state.console
      let forwarder := s.handled.state.forwarder
      let lines := s.captured.map LogEntry.line
      let delivery := { console.queue with outputs := console.queue.outputs ++ lines }
      { answer := {
          delivery
          commands := forwarder.received
          written := Terminal.write s.style delivery.lifecycle delivery.outputs }
        state := { s with
          console := (console.drain.2.appendAll lines).drain.2
          forwarder := forwarder.drain.2
          submitted := []
          announced := []
          heard := [] }
        log := s.handled.log } := by
  have unsubmitted : s.frame.state.submitted = [] := by rw [frame_eq]
  simp only [update, frame_of_unsubmitted unsubmitted]
  simp only [frame_eq, Update.append, Console.drain, Forwarder.drain, Console.queue_appendAll, Terminal.write_append,
    Bool.or_false, List.append_nil, List.nil_append]

/-- The log of the host is not captured, and nothing is left that was heard before. -/
structure CaptureOff (s : Session) : Prop where
  capture : s.capture = false
  heard : s.heard = []

/-- Without capture nothing is passed on in a frame. -/
theorem CaptureOff.captured_eq {s : Session} (off : s.CaptureOff) : s.captured = [] := by
  unfold captured
  rw [off.heard, off.capture, if_neg Bool.false_ne_true, List.append_nil]

theorem CaptureOff.frame {s : Session} (off : s.CaptureOff) : s.frame.state.CaptureOff := by
  rw [frame_eq]
  exact ⟨off.capture, rfl⟩

theorem CaptureOff.update {s : Session} (off : s.CaptureOff) : s.update.state.CaptureOff :=
  off.frame.frame

/-- Nothing waits for the next frame. -/
structure Settled (s : Session) : Prop where
  submitted : s.submitted = []
  announced : s.announced = []
  heard : s.heard = []

/-- Nothing waits for the next frame, and nothing is left to tell in it. -/
structure Idle (s : Session) : Prop extends s.Settled where
  queue : s.console.queue = {}
  received : s.forwarder.received = []

/-- After an update nothing is left to do. -/
theorem idle_update (s : Session) : s.update.state.Idle := by
  rw [update_eq]
  exact ⟨⟨rfl, rfl, rfl⟩, rfl, rfl⟩

/-- The session with nothing left to do. -/
def emptied (s : Session) : Session :=
  { s with console := s.console.drain.2, forwarder := s.forwarder.drain.2, submitted := [], announced := [], heard := [] }

theorem Idle.emptied_eq {s : Session} (h : s.Idle) : s.emptied = s := by
  obtain ⟨console, registry, forwarder, style, directory, capture, threshold, submitted, announced, heard⟩ := s
  obtain ⟨⟨rfl, rfl, rfl⟩, queue, received⟩ := h
  simp only at queue received
  simp only [emptied, Console.drain, Forwarder.drain, ← queue, ← received]

theorem Settled.announcedShown_eq {s : Session} (h : s.Settled) : s.announcedShown = s := by
  obtain ⟨submitted, announced, -⟩ := h
  obtain ⟨_, _, _, _, _, _, _, _, _, _⟩ := s
  cases submitted
  cases announced
  rfl

/-- A frame that nothing waits for handles no lines. -/
theorem Settled.handled_eq {s : Session} (h : s.Settled) : s.handled = { answer := (), state := s } := by
  unfold handled
  rw [h.announcedShown_eq, h.submitted, handleAll_nil]

theorem Settled.captured_eq {s : Session} (h : s.Settled) : s.captured = [] := by
  unfold captured
  rw [h.heard, h.handled_eq, List.filter_nil, ite_self, List.append_nil]

/-- A frame that has nothing to do changes and tells nothing. -/
theorem frame_of_idle {s : Session} (h : s.Idle) :
    s.frame = { answer := { delivery := {}, commands := [], written := "" }, state := s } := by
  have same := h.emptied_eq
  rw [frame_of_unsubmitted h.submitted, h.announced, h.heard]
  simp only [List.map_nil, Console.appendAll_nil, List.append_nil, h.queue, h.received, Terminal.write_nothing]
  exact congrArg (Outcome.mk _ · []) same

/-- Nor does an update. -/
theorem update_of_idle {s : Session} (h : s.Idle) :
    s.update = { answer := { delivery := {}, commands := [], written := "" }, state := s } := by
  simp only [update, frame_of_idle h]
  rfl

end Session

end DebugConsole
