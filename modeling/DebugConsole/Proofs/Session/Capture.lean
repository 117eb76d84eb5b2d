import DebugConsole.Proofs.Session.History

/-!
# Captured entries

With capture, what is emitted into the log of the host comes to the console. What has been emitted is shown already, or a frame has passed
it on to the next one, or it was heard and waits to be passed on (`Session.History.Accounted`). A frame shows what the frame before has
passed on and passes on all that was heard, also what its own lines have emitted; so an update, which is two frames, leaves nothing
waiting, and after any update `capture_shows_once` holds. Output lines that are printed to the log do not come back from it, since their
entries are not heard (`isShown_ofLine`).
-/

namespace DebugConsole

namespace HostEvent

/-- Whether an event is to be shown: it is severe enough, and it is not an output line of the console. -/
def isShown (threshold : Severity) (e : HostEvent) : Bool :=
  e.severity.atLeast threshold && e.target != LogSource.printed.target

/-- The output lines of the events that are to be shown. -/
def shown (threshold : Severity) (events : List HostEvent) : List Line :=
  (events.filter (isShown threshold)).filterMap line?

theorem shown_append (threshold : Severity) (events later : List HostEvent) :
    shown threshold (events ++ later) = shown threshold events ++ shown threshold later := by
  simp only [shown, List.filter_append, List.filterMap_append]

/-- For entries, the lines are those of the entries that are heard. -/
theorem shown_ofEntry (threshold : Severity) (entries : List LogEntry) :
    shown threshold (entries.map ofEntry) = (entries.filter (Session.isShown threshold)).map LogEntry.line := by
  have same : isShown threshold ∘ ofEntry = Session.isShown threshold := rfl
  have line : line? ∘ ofEntry = some ∘ LogEntry.line := rfl
  rw [shown, List.filter_map, same, List.filterMap_map, line, List.filterMap_eq_map]

/-- An output line that is printed to the log of the host is not shown again. -/
theorem isShown_ofLine (threshold : Severity) (l : Line) : isShown threshold (ofEntry (.ofLine l)) = false := by
  have target : (LogEntry.ofLine l).target = LogSource.printed.target := rfl
  simp only [isShown, ofEntry, target, bne_self_eq_false, Bool.and_false]

end HostEvent

namespace Session

/-! ## What is heard -/

/-- With capture, the entries that are to be shown are heard behind those that were heard before. -/
theorem heard_hear {s : Session} (on : s.capture = true) (entries : List LogEntry) :
    (s.hear entries).heard.map LogEntry.line =
      s.heard.map LogEntry.line ++ HostEvent.shown s.threshold (entries.map HostEvent.ofEntry) := by
  rw [hear_eq, if_pos on, List.map_append, HostEvent.shown_ofEntry]

theorem hear_nil (s : Session) : s.hear [] = s := by
  rw [hear_eq, List.filter_nil, ite_self, List.append_nil]

theorem hear_of_off {s : Session} (off : s.capture = false) (entries : List LogEntry) : s.hear entries = s := by
  unfold hear
  rw [off, if_neg Bool.false_ne_true]

/-- An event of the host is an entry if it has a message. -/
theorem shown_singleton (threshold severity : Severity) (target : String) (message : Option String) :
    HostEvent.shown threshold [⟨severity, target, message⟩] =
      HostEvent.shown threshold ((message.toList.map (LogEntry.mk severity target)).map HostEvent.ofEntry) := by
  cases message with
  | some text => rfl
  | none =>
    unfold HostEvent.shown
    rw [List.filter_singleton]
    cases HostEvent.isShown threshold ⟨severity, target, none⟩ <;> rfl

/-- In every event but an update, some parts of the session change that have nothing to do with capture, and then what was emitted is
heard. -/
theorem perform_eq_hear {event : Event} (h : event ≠ .update) (s : Session) :
    ∃ entries t, (s.perform event).state = hear entries t ∧ t.capture = s.capture ∧ t.threshold = s.threshold ∧
      t.heard = s.heard ∧
        HostEvent.shown s.threshold (s.emits event) = HostEvent.shown s.threshold (entries.map HostEvent.ofEntry) := by
  cases event with
  | operate op => exact ⟨(s.perform (.operate op)).log, _, rfl, rfl, rfl, rfl, rfl⟩
  | register name => exact ⟨(s.perform (.register name)).log, _, rfl, rfl, rfl, rfl, rfl⟩
  | unregister name => exact ⟨(s.perform (.unregister name)).log, _, rfl, rfl, rfl, rfl, rfl⟩
  | process line delegate => exact ⟨(s.perform (.process line delegate)).log, _, rfl, rfl, rfl, rfl, rfl⟩
  | hostLog severity target message =>
    exact ⟨message.toList.map (LogEntry.mk severity target), s, rfl, rfl, rfl, rfl, shown_singleton _ _ _ _⟩
  | load path =>
    have emitted : s.emits (.load path) = (s.perform (.load path)).log.map HostEvent.ofEntry := rfl
    cases loaded : Config.load s.directory path with
    | error failure =>
      have performed : s.perform (.load path) = quietly (.loaded (.error failure)) s := by
        simp only [perform, loaded]
      rw [emitted, performed]
      exact ⟨[], s, (hear_nil s).symm, rfl, rfl, rfl, rfl⟩
    | ok config =>
      have performed : s.perform (.load path) =
          listen { answer := .loaded (.ok config), state := (s.apply config).state, log := (s.apply config).log } := by
        simp only [perform, loaded]
      rw [emitted, performed]
      exact ⟨(s.apply config).log, (s.apply config).state, rfl, rfl, rfl, rfl, rfl⟩
  | update => exact absurd rfl h
  | _ => exact ⟨[], _, (hear_nil _).symm, rfl, rfl, rfl, rfl⟩

/-- No event turns capture on or off or changes the threshold. -/
theorem capture_perform (event : Event) (s : Session) :
    (s.perform event).state.capture = s.capture ∧ (s.perform event).state.threshold = s.threshold := by
  by_cases update : event = .update
  · subst update
    unfold perform
    rw [update_eq]
    exact ⟨rfl, rfl⟩
  · obtain ⟨entries, t, state, capture, threshold, -, -⟩ := perform_eq_hear update s
    rw [state, hear_eq]
    exact ⟨capture, threshold⟩

/-- What is emitted in any event but an update is heard behind what was heard before. -/
theorem heard_perform {s : Session} (on : s.capture = true) {event : Event} (h : event ≠ .update) :
    (s.perform event).state.heard.map LogEntry.line =
      s.heard.map LogEntry.line ++ HostEvent.shown s.threshold (s.emits event) := by
  obtain ⟨entries, t, state, capture, threshold, heard, emitted⟩ := perform_eq_hear h s
  rw [state, heard_hear (capture.trans on), threshold, heard, emitted]

/-- What is emitted in a frame is passed on behind what was heard before it. -/
theorem announced_frame {s : Session} (on : s.capture = true) :
    s.frame.state.announced.map LogEntry.line =
      s.heard.map LogEntry.line ++ HostEvent.shown s.threshold (s.frame.log.map HostEvent.ofEntry) := by
  rw [frame_eq, HostEvent.shown_ofEntry]
  simp only [captured, if_pos on, List.map_append]

/-- Without capture nothing is heard in any event. -/
theorem CaptureOff.perform {s : Session} (off : s.CaptureOff) (event : Event) : (s.perform event).state.CaptureOff := by
  by_cases update : event = .update
  · subst update
    exact off.update
  · obtain ⟨entries, t, state, capture, -, heard, -⟩ := perform_eq_hear update s
    rw [state, hear_of_off (capture.trans off.capture)]
    exact ⟨capture.trans off.capture, heard.trans off.heard⟩

/-- Printing a line changes the console, and leaves nothing to be heard. -/
theorem state_print (destination : Destination) (line : Line) (s : Session) :
    (s.perform (.operate (.print destination line))).state =
      { s with console := (s.console.perform (.print destination line)).state } := by
  have unheard : (s.console.print destination line).log.filter (isShown s.threshold) = [] := by
    have printed : isShown s.threshold (.ofLine line) = false := HostEvent.isShown_ofLine s.threshold line
    cases destination with
    | console => rfl
    | both => exact List.filter_cons_of_neg (Bool.eq_false_iff.1 printed)
    | hostOnly => exact List.filter_cons_of_neg (Bool.eq_false_iff.1 printed)
  show hear (s.console.print destination line).log
    { s with console := (s.console.perform (.print destination line)).state } = _
  rw [hear_eq]
  simp only [unheard, ite_self, List.append_nil]

theorem Settled.print {s : Session} (settled : s.Settled) (destination : Destination) (line : Line) :
    (s.perform (.operate (.print destination line))).state.Settled := by
  rw [state_print]
  exact ⟨settled.submitted, settled.announced, settled.heard⟩

/-- Loading the settings file at the start changes the console and the registry. -/
theorem loadAtStart_frame (path : String) (s : Session) :
    ∃ console registry, (s.loadAtStart path).state = { s with console, registry } := by
  unfold loadAtStart
  split
  · split
    · exact ⟨_, _, rfl⟩
    · exact ⟨_, _, rfl⟩
  · exact ⟨_, _, rfl⟩

/-- Setting the console up at the start changes the console. -/
theorem setUpAtStart_frame (setup : Option (Mount × Dock)) (s : Session) :
    ∃ console, (s.setUpAtStart setup).state = { s with console } := by
  unfold setUpAtStart
  split
  · exact ⟨_, rfl⟩
  · exact ⟨_, rfl⟩

/-- A session that starts is the initial one with another console and registry, which hears the log of the start. -/
theorem started_frame (l : Launch) :
    ∃ console registry, (started l).state = hear (started l).log { initial l with console, registry } := by
  obtain ⟨console, registry, loaded⟩ := loadAtStart_frame l.configPath (initial l)
  obtain ⟨console', ready⟩ := setUpAtStart_frame l.setup (listen ((initial l).loadAtStart l.configPath)).state
  refine ⟨console', registry, ?_⟩
  simp only [started, listen] at loaded ready ⊢
  rw [ready, loaded]
  simp only [hear_eq, List.filter_append, List.append_assoc]
  split <;> rfl

namespace History

/-! ## Accounting for what was emitted -/

/-- With capture and a threshold, what was emitted so far has been shown, or a frame has passed it on, or it was heard and waits to be
passed on. -/
structure Accounted (threshold : Severity) (h : History) : Prop where
  on : h.session.capture = true
  level : h.session.threshold = threshold
  account : h.captured ++ (h.passedOn ++ h.session.heard).map LogEntry.line = HostEvent.shown threshold h.emitted

theorem Accounted.frame {threshold : Severity} {h : History} (before : h.Accounted threshold) : h.frame.Accounted threshold := by
  obtain ⟨on, rfl, account⟩ := before
  have kept : h.session.frame.state.capture = h.session.capture ∧ h.session.frame.state.threshold = h.session.threshold ∧
      h.session.frame.state.heard = [] := by
    rw [frame_eq]
    exact ⟨rfl, rfl, rfl⟩
  obtain ⟨capture, level, heard⟩ := kept
  refine ⟨capture.trans on, level, ?_⟩
  have passedOn : h.frame.passedOn = h.session.frame.state.announced := rfl
  have still : h.frame.session.heard = [] := heard
  rw [captured_frame, passedOn, still, List.append_nil, announced_frame on, ← List.append_assoc, List.append_assoc h.captured,
    ← List.map_append, account]
  exact (HostEvent.shown_append _ _ _).symm

theorem Accounted.event {threshold : Severity} {h : History} (before : h.Accounted threshold) {event : Event}
    (update : event ≠ .update) : (h.after (.event event)).Accounted threshold := by
  obtain ⟨on, rfl, account⟩ := before
  obtain ⟨capture, level⟩ := capture_perform event h.session
  have heard := heard_perform on update
  have shown := captured_event update h
  rw [after_event update] at shown ⊢
  refine ⟨capture.trans on, level, ?_⟩
  rw [shown, List.map_append, heard, HostEvent.shown_append, ← account, List.map_append, List.append_assoc, List.append_assoc]

/-- What a session emits while it starts is heard. -/
theorem accounted_start {l : Launch} (on : l.capture = true) : (start l).Accounted l.threshold := by
  obtain ⟨console, registry, started⟩ := started_frame l
  have session : (start l).session = hear (Session.started l).log { initial l with console, registry } := started
  have heard := heard_hear (s := { initial l with console, registry }) on (Session.started l).log
  refine ⟨?_, ?_, ?_⟩
  · rw [session, hear_eq]
    exact on
  · rw [session, hear_eq]
    rfl
  · rw [session]
    exact heard

theorem accounted_run {l : Launch} (on : l.capture = true) (moments : List Moment) :
    ((start l).run moments).Accounted l.threshold :=
  run_induction (fun _ before => before.frame) (fun _ _ update before => before.event update) moments (start l)
    (accounted_start on)

/-- After an update nothing is passed on. -/
theorem passedOn_update (h : History) : (h.after (.event .update)).passedOn = [] :=
  (idle_update h.session).announced

/-- A printed line is appended unless it is for the log of the host alone, and adds nothing to what capture has to show. -/
theorem after_print (threshold : Severity) (destination : Destination) (line : Line) (h : History) :
    let printed := h.after (.event (.operate (.print destination line)))
    printed.appended = h.appended ++ (if destination = .hostOnly then [] else [⟨line, false⟩]) ∧
      HostEvent.shown threshold printed.emitted = HostEvent.shown threshold h.emitted := by
  have unshown : HostEvent.shown threshold [.ofEntry (.ofLine line)] = [] := by
    unfold HostEvent.shown
    rw [List.filter_cons_of_neg (Bool.eq_false_iff.1 (HostEvent.isShown_ofLine threshold line))]
    rfl
  have emitted : HostEvent.shown threshold (h.session.emits (.operate (.print destination line))) = [] := by
    cases destination with
    | console => rfl
    | both => exact unshown
    | hostOnly => exact unshown
  refine ⟨?_, ?_⟩
  · cases destination <;>
      simp [after, appended, Session.revisions, Console.Op.revisions, Change.own, Change.appending?, Console.Revision.line?]
  · simp only [after, HostEvent.shown_append, emitted, List.append_nil]

/-- A frame that nothing waits for appends nothing. -/
theorem appended_frame {h : History} (passedOn : h.passedOn = []) (settled : h.session.Settled) : h.frame.appended = h.appended := by
  have made : h.made = [] := by
    unfold History.made
    rw [passedOn, settled.announced, settled.submitted]
    rfl
  simp only [appended, frame, made, List.nil_append, List.filterMap_append]
  exact List.append_nil _

/-- Nor does an update. -/
theorem appended_update {h : History} (passedOn : h.passedOn = []) (settled : h.session.Settled) :
    (h.after (.event .update)).appended = h.appended := by
  have first := appended_frame passedOn settled
  have waiting : h.frame.passedOn = [] := by
    show h.session.frame.state.announced = []
    rw [frame_eq]
    exact settled.captured_eq
  have after : h.frame.session.Settled := by
    show h.session.frame.state.Settled
    rw [frame_eq]
    exact ⟨rfl, settled.captured_eq, rfl⟩
  exact (appended_frame waiting after).trans first

/-- What a frame tells the host is what was appended since the host was told the last time, unless it was cleared away. -/
theorem outputs_frame {c : Console} {h : History} (before : h.Exact c) :
    h.session.frame.answer.delivery.outputs =
      (h.revisions ++ h.made.map Change.revision).foldl Console.Revision.queue c.queue.outputs := by
  have handled := before.revised.trans (revised_frame h.session).1
  rw [← revisions_made before.passedOn] at handled
  rw [frame_eq]
  exact handled.outputs

/-- An update tells what its first frame tells, and then the captured entries. -/
theorem outputs_update (s : Session) :
    s.update.answer.delivery.outputs = s.frame.answer.delivery.outputs ++ s.captured.map LogEntry.line := by
  rw [update_eq, frame_eq]

/-- With capture, whatever the threshold and whatever happens, and be it between two frames: after any update the lines that capture has
appended are those of the events emitted since the start that are severe enough and no output lines, in this order and each of them once.
After a single frame they are these but for the last ones, which the next frame shows. So a printed line is appended once or, if it is for
the log of the host alone, not at all, and neither when it is printed nor in the next update does capture append it again. After an update,
a further frame or update changes nothing, tells nothing and appends nothing.

What was appended is what the console has: its buffer and its capacity are exactly what all that was done to them leads to, line by line
under the cap, and a frame or an update tells the host exactly the lines that were appended since it was told before, unless they were
cleared away. -/
theorem capture_shows_once (l : Launch) (on : l.capture = true) (moments : List Moment) :
    let before := (start l).run moments
    let run := (start l).run (moments ++ [.event .update])
    let nothing : Update := { delivery := {}, commands := [], written := "" }
    run.captured = HostEvent.shown l.threshold run.emitted ∧
      before.frame.captured ++ before.frame.session.announced.map LogEntry.line =
        HostEvent.shown l.threshold before.frame.emitted ∧
      (∀ destination line,
        let printed := before.after (.event (.operate (.print destination line)))
        printed.appended = before.appended ++ (if destination = .hostOnly then [] else [⟨line, false⟩]) ∧
          HostEvent.shown l.threshold printed.emitted = HostEvent.shown l.threshold before.emitted) ∧
      (∀ destination line,
        (run.run [.event (.operate (.print destination line)), .event .update]).appended =
          run.appended ++ if destination = .hostOnly then [] else [⟨line, false⟩]) ∧
      (run.session.frame = { answer := nothing, state := run.session } ∧ run.frame.appended = run.appended) ∧
      (run.session.perform .update = quietly (.updated nothing) run.session ∧
        (run.after (.event .update)).appended = run.appended) ∧
      (run.session.console.lines, run.session.console.capacity) =
        run.revisions.foldl Console.Revision.revise ([], (initial l).console.capacity) ∧
      before.session.frame.answer.delivery.outputs =
        (before.revisions ++ before.made.map Change.revision).foldl Console.Revision.queue [] ∧
      before.session.update.answer.delivery.outputs =
        before.session.frame.answer.delivery.outputs ++ before.session.captured.map LogEntry.line := by
  intro before run nothing
  have last : run = before.after (.event .update) := run_append moments [.event .update] (start l)
  have idle : run.session.Idle := by
    rw [last]
    exact idle_update before.session
  have passedOn : run.passedOn = [] := by
    rw [last]
    exact passedOn_update before
  obtain ⟨empty, untold⟩ := empty_initial l
  have again : run.frame.appended = run.appended := appended_frame passedOn idle.toSettled
  have exact' : before.Exact (initial l).console := exact_run l moments
  refine ⟨?_, ?_, fun destination line => after_print l.threshold destination line before, ?_, ⟨frame_of_idle idle, again⟩,
    ⟨?_, ?_⟩, ?_, ?_, outputs_update before.session⟩
  · have account := (accounted_run on (moments ++ [.event .update])).account
    rw [passedOn, idle.heard] at account
    exact (List.append_nil _).symm.trans account
  · have account := (accounted_run on moments).frame.account
    have heard : before.frame.session.heard = [] := by
      show before.session.frame.state.heard = []
      rw [frame_eq]
    rw [heard, List.append_nil] at account
    exact account
  · intro destination line
    let printed := run.after (.event (.operate (.print destination line)))
    have unpassed : printed.passedOn = [] := passedOn
    have settled : printed.session.Settled := idle.toSettled.print destination line
    exact (appended_update unpassed settled).trans (after_print l.threshold destination line run).1
  · unfold perform
    rw [update_of_idle idle]
    rfl
  · exact appended_update passedOn idle.toSettled
  · rw [← empty]
    exact (exact_run l (moments ++ [.event .update])).revised.buffer
  · rw [← untold]
    exact outputs_frame exact'

/-- Of these events one is shown: the others are not severe enough, have no message or are lines of the console. It is passed on in a frame
of its own and shown in the next one. -/
theorem capture_shows_once_of_some_events :
    let l : Launch := { capture := true, threshold := .debug, capacity := some 2 }
    let moments : List Moment :=
      [.event (.operate (.print .console ⟨.info, "early"⟩)), .event (.hostLog .warn "host" (some "low memory")), .frame,
        .event (.hostLog .trace "host" (some "tick")), .event (.hostLog .error "host" none),
        .event (.operate (.print .both ⟨.info, "hello"⟩)), .event (.operate (.print .hostOnly ⟨.info, "hidden"⟩))]
    let before := (start l).run moments
    let run := (start l).run (moments ++ [.event .update])
    l.capture = true ∧ before.captured = [] ∧ run.emitted.length = 5 ∧ run.captured = [⟨.warn, "[host] low memory"⟩] ∧
      run.lines = [⟨.info, "early"⟩, ⟨.info, "hello"⟩, ⟨.warn, "[host] low memory"⟩] ∧
      run.session.console.lines = [⟨.info, "hello"⟩, ⟨.warn, "[host] low memory"⟩] ∧
      before.session.update.answer.delivery.outputs = [⟨.info, "hello"⟩, ⟨.warn, "[host] low memory"⟩] ∧
      (run.after (.event .update)).lines = run.lines := by
  intro l moments before run
  obtain ⟨captured, -, -, -, -, ⟨-, again⟩, buffer, told, update⟩ := capture_shows_once l rfl moments
  have emitted : run.emitted.length = 5 := by decide +kernel
  have earlier : before.captured = [] := by decide +kernel
  have shown : HostEvent.shown l.threshold run.emitted = [⟨.warn, "[host] low memory"⟩] := by decide +kernel
  have lines : run.lines = [⟨.info, "early"⟩, ⟨.info, "hello"⟩, ⟨.warn, "[host] low memory"⟩] := by decide +kernel
  have kept : (run.revisions.foldl Console.Revision.revise ([], (initial l).console.capacity)).1 =
      [⟨.info, "hello"⟩, ⟨.warn, "[host] low memory"⟩] := by decide +kernel
  have outputs : before.session.update.answer.delivery.outputs = [⟨.info, "hello"⟩, ⟨.warn, "[host] low memory"⟩] := by
    rw [update, told]
    decide +kernel
  have quiet : (run.after (.event .update)).lines = run.lines := by
    unfold History.lines
    rw [again]
  rw [shown] at captured
  rw [← buffer] at kept
  exact ⟨rfl, earlier, emitted, captured, lines, kept, outputs, quiet⟩

/-- A session that was launched without capture never shows an entry of the log. -/
theorem captured_of_off {l : Launch} (off : l.capture = false) (moments : List Moment) :
    let run := (start l).run moments
    run.session.CaptureOff ∧ run.passedOn = [] ∧ run.captured = [] := by
  apply run_induction (P := fun h => h.session.CaptureOff ∧ h.passedOn = [] ∧ h.captured = [])
  · rintro h ⟨before, passedOn, none⟩
    refine ⟨before.frame, ?_, ?_⟩
    · show h.session.frame.state.announced = []
      rw [frame_eq]
      exact before.captured_eq
    · rw [captured_frame, none, passedOn]
      rfl
  · rintro h event update ⟨before, passedOn, none⟩
    have shown := captured_event update h
    rw [after_event update] at shown ⊢
    exact ⟨before.perform event, passedOn, shown.trans none⟩
  · obtain ⟨console, registry, started⟩ := started_frame l
    have session : (start l).session = { initial l with console, registry } :=
      started.trans (hear_of_off (s := { initial l with console, registry }) off _)
    rw [session]
    exact ⟨⟨off, rfl⟩, rfl, rfl⟩

end History

end Session

end DebugConsole
