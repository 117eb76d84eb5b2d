import DebugConsole.Proofs.Command.Resolution
import DebugConsole.Proofs.Session.Handling

/-!
# What can be typed

Lines reach a console through stock commands, and these are confined. They never set a panel up or open it, they leave what belongs
to the host alone, and the one command that changes how a panel is mounted is the reset, which takes it down for good.

`Console.Confined` is what a console and what becomes of it have in common, without and with a reset on the way. Every call that a
line can make confines its effect so (`Confined.call`), a line makes such calls only, and from line to line the relation composes.
`typed_input_confined` is what it says of any list of lines.
-/

namespace DebugConsole

/-- Settings that are the same where no line can change them but by a reset: all but the live environment, the diagnostic mode and the
five colors that have a command. -/
structure Settings.HostAgree (s t : Settings) : Prop where
  width : t.width = s.width
  height : t.height = s.height
  position : t.position = s.position
  warning : t.warning = s.warning
  error : t.error = s.error
  moveEnabled : t.moveEnabled = s.moveEnabled
  fullscreenEnabled : t.fullscreenEnabled = s.fullscreenEnabled
  gesturesEnabled : t.gesturesEnabled = s.gesturesEnabled
  clearButtonEnabled : t.clearButtonEnabled = s.clearButtonEnabled

namespace Settings

theorem HostAgree.refl (s : Settings) : s.HostAgree s :=
  ⟨rfl, rfl, rfl, rfl, rfl, rfl, rfl, rfl, rfl⟩

theorem HostAgree.trans {s t u : Settings} (h : s.HostAgree t) (h' : t.HostAgree u) : s.HostAgree u :=
  ⟨h'.width.trans h.width, h'.height.trans h.height, h'.position.trans h.position, h'.warning.trans h.warning,
    h'.error.trans h.error, h'.moveEnabled.trans h.moveEnabled, h'.fullscreenEnabled.trans h.fullscreenEnabled,
    h'.gesturesEnabled.trans h.gesturesEnabled, h'.clearButtonEnabled.trans h.clearButtonEnabled⟩

/-- A color that has a command does not belong to the host. -/
theorem hostAgree_color (s : Settings) {slot : ColorSlot} (warning : slot ≠ .warning) (error : slot ≠ .error)
    (value : Color) : s.HostAgree (s.set (.color slot value)) := by
  cases slot with
  | warning => exact absurd rfl warning
  | error => exact absurd rfl error
  | _ => exact ⟨rfl, rfl, rfl, rfl, rfl, rfl, rfl, rfl, rfl⟩

end Settings

/-! ## The calls of lines -/

/-- Whether lines can make a call. The colors of warnings and of errors have no command. -/
def Call.CanBeTyped (call : Call) : Prop :=
  ∀ slot value, call = .setColor slot value → slot ≠ .warning ∧ slot ≠ .error

/-- The calls that belong to stock commands can be typed. -/
theorem Stock.canBeTyped_of_call? {c : Stock} {argument : Option String} {call : Call}
    (h : c.call? argument = some call) : call.CanBeTyped := by
  rintro slot value rfl
  cases c with
  | sendEmail =>
    obtain ⟨address, -, other⟩ := Option.map_eq_some_iff.1 h
    cases other
  | _ =>
    cases h
    try exact ⟨nofun, nofun⟩

/-- The call of a reset belongs to one stock command. -/
theorem Stock.call?_eq_reset_iff {c : Stock} {argument : Option String} :
    c.call? argument = some .reset ↔ c = .consoleReset := by
  constructor
  · intro h
    cases c with
    | consoleReset => rfl
    | sendEmail =>
      obtain ⟨address, -, other⟩ := Option.map_eq_some_iff.1 h
      cases other
    | _ => cases h
  · rintro rfl
    rfl

/-- A line makes no other calls than those that can be typed. -/
theorem canBeTyped_of_mem_calls {σ : Type} {F : Facade σ} {registry : Registry} {delegate : Option (List String)}
    {line : String} {s : σ} {call : Call} (h : call ∈ (dispatch F registry delegate line s).calls) : call.CanBeTyped := by
  by_cases print : call.isPrint = true
  · rintro slot value rfl
    cases print
  · have mutation : call ∈ (dispatch F registry delegate line s).mutations := by
      refine List.mem_filter.2 ⟨h, ?_⟩
      rw [Bool.eq_false_iff.2 print]
      rfl
    rw [mutations_dispatch, Option.mem_toList] at mutation
    obtain ⟨c, -, belongs⟩ := Option.bind_eq_some_iff.1 mutation
    exact Stock.canBeTyped_of_call? belongs

/-- A line resets a console if and only if it was given to the stock command for that. -/
theorem reset_mem_calls_iff {σ : Type} {F : Facade σ} {registry : Registry} {delegate : Option (List String)}
    {line : String} {s : σ} :
    Call.reset ∈ (dispatch F registry delegate line s).calls ↔
      (dispatch F registry delegate line s).report.stock? = some .consoleReset := by
  have mutation : Call.reset ∈ (dispatch F registry delegate line s).calls ↔
      Call.reset ∈ (dispatch F registry delegate line s).mutations := by
    unfold Run.mutations
    rw [List.mem_filter]
    exact (and_iff_left rfl).symm
  rw [mutation, mutations_dispatch, Option.mem_toList, Option.bind_eq_some_iff]
  constructor
  · rintro ⟨c, given, belongs⟩
    rwa [Stock.call?_eq_reset_iff.1 belongs] at given
  · intro given
    exact ⟨.consoleReset, given, rfl⟩

/-! ## Panels -/

namespace Panel

/-- The moves of stock commands, but for the reset, keep how a panel is mounted and where it is docked, and they display none that
was hidden. -/
theorem step_typed {p q : Panel} {m : Move} (typed : m = .enterFullscreen ∨ m = .exitFullscreen none ∨ m = .closePanel)
    (h : p.step m = .ok q) :
    q.mount? = p.mount? ∧ q.dock = p.dock ∧ (q.display.isOverlay = true → p.display.isOverlay = true) := by
  -- A panel that can make one of these moves is displayed over the host already.
  rcases typed with rfl | rfl | rfl <;> rcases p with _ | ⟨_, _, _ | _ | _⟩ | _ <;> cases h <;>
    exact ⟨rfl, rfl, fun _ => rfl⟩

/-- A panel shows that it is embedded if and only if it is mounted so. -/
theorem display_eq_embedded_iff (p : Panel) :
    p.display = .embedded ↔ ∃ mount, p.mount? = some mount ∧ mount.isEmbedded = true := by
  rcases p with _ | ⟨_ | _, _, _ | _ | _⟩ | _ | _ <;> simp [display, Extent.display, mount?, Mount.isEmbedded]

theorem isOverlay_display_iff (p : Panel) :
    p.display.isOverlay = true ↔ p.display = .opened ∨ p.display = .fullscreen := by
  cases p.display <;> simp [Display.isOverlay]

/-- What is displayed and neither embedded nor over the host is nothing. -/
theorem display_eq_closed_iff (p : Panel) :
    p.display = .closed ↔ p.display.isOverlay = false ∧ p.display ≠ .embedded := by
  cases p.display <;> simp [Display.isOverlay]

end Panel

/-! ## Consoles -/

namespace Console

/-- What a console and what becomes of it have in common if nothing but lines happen to it, of which some or none resets it. -/
structure Confined (reset : Bool) (c d : Console) : Prop where
  live : d.settings.liveEnvironment = c.settings.liveEnvironment
  capacity : d.capacity = c.capacity
  canMail : d.canMail = c.canMail
  settings : (if reset then {} else c.settings).HostAgree d.settings
  mount : d.panel.mount? = if reset then none else c.panel.mount?
  dock : d.panel.dock = if reset then .usual else c.panel.dock
  overlay : d.panel.display.isOverlay = true → c.panel.display.isOverlay = true

theorem Confined.refl (c : Console) : Confined false c c :=
  ⟨rfl, rfl, rfl, .refl c.settings, rfl, rfl, id⟩

/-- What happens in two goes is a reset if one of them is. -/
theorem Confined.trans {r r' : Bool} {c d e : Console} (h : Confined r c d) (h' : Confined r' d e) :
    Confined (r || r') c e := by
  refine ⟨h'.live.trans h.live, h'.capacity.trans h.capacity, h'.canMail.trans h.canMail, ?_, ?_, ?_,
    fun shown => h.overlay (h'.overlay shown)⟩
  · cases r' with
    | true =>
      rw [Bool.or_true]
      exact h'.settings
    | false =>
      rw [Bool.or_false]
      exact h.settings.trans h'.settings
  · cases r' with
    | true =>
      rw [Bool.or_true]
      exact h'.mount
    | false =>
      rw [Bool.or_false]
      exact h'.mount.trans h.mount
  · cases r' with
    | true =>
      rw [Bool.or_true]
      exact h'.dock
    | false =>
      rw [Bool.or_false]
      exact h'.dock.trans h.dock

/-- Printing is confined. -/
theorem Confined.print (destination : Destination) (l : Line) (c : Console) :
    Confined false c (c.perform (.print destination l)).state := by
  cases destination <;> exact ⟨rfl, rfl, rfl, .refl c.settings, rfl, rfl, id⟩

/-- The moves of stock commands, but for the reset, are confined. -/
theorem Confined.movePanel {m : Move} (typed : m = .enterFullscreen ∨ m = .exitFullscreen none ∨ m = .closePanel)
    (c : Console) : Confined false c (c.movePanel m).2 := by
  unfold Console.movePanel
  split
  · exact .refl c
  · rename_i p h
    obtain ⟨mount, dock, overlay⟩ := Panel.step_typed typed h
    exact ⟨rfl, rfl, rfl, .refl c.settings, mount, dock, overlay⟩

/-- A reset brings everything to its default but what it keeps. -/
theorem Confined.reset (c : Console) : Confined true c c.reset.2 :=
  ⟨rfl, rfl, rfl, ⟨rfl, rfl, rfl, rfl, rfl, rfl, rfl, rfl, rfl⟩, rfl, rfl, nofun⟩

/-- Every call that can be typed is confined. -/
theorem Confined.call {call : Call} (typed : call.CanBeTyped) (c : Console) :
    Confined (decide (call = .reset)) c (c.perform (opOf call)).state := by
  cases call with
  | setColor slot value =>
    obtain ⟨warning, error⟩ := typed slot value rfl
    have live : (c.settings.set (.color slot value)).liveEnvironment = c.settings.liveEnvironment := by
      cases slot <;> rfl
    exact ⟨live, rfl, rfl, Settings.hostAgree_color c.settings warning error value, rfl, rfl, id⟩
  | setDiagnostics on => exact ⟨rfl, rfl, rfl, ⟨rfl, rfl, rfl, rfl, rfl, rfl, rfl, rfl, rfl⟩, rfl, rfl, id⟩
  | enterFullscreen => exact .movePanel (Or.inl rfl) c
  | exitFullscreen => exact .movePanel (Or.inr (Or.inl rfl)) c
  | closePanel => exact .movePanel (Or.inr (Or.inr rfl)) c
  | reset => exact .reset c
  | sendMail recipients => exact ⟨rfl, rfl, rfl, .refl c.settings, rfl, rfl, id⟩
  | print destination line => exact .print destination line c

/-- Calls that can be typed are confined, and they reset the console if one of them does. -/
theorem Confined.calls {calls : List Call} (typed : ∀ call ∈ calls, call.CanBeTyped) (c : Console) :
    Confined (decide (Call.reset ∈ calls)) c (c.performAll (calls.map opOf)) := by
  induction calls generalizing c with
  | nil => exact .refl c
  | cons call calls ih =>
    have first := Confined.call (typed call List.mem_cons_self) c
    have rest := ih (fun later member => typed later (List.mem_cons_of_mem call member)) (c.perform (opOf call)).state
    have either : decide (Call.reset ∈ call :: calls) = (decide (call = .reset) || decide (Call.reset ∈ calls)) := by
      rw [← Bool.decide_or, decide_eq_decide, List.mem_cons, eq_comm]
    rw [either]
    exact first.trans rest

variable {r : Bool} {c d : Console}

/-- A console that is not set up is not set up by what is confined. -/
theorem Confined.detached (h : Confined r c d) (detached : c.panel.isReady = false) : d.panel.isReady = false := by
  unfold Panel.isReady at detached ⊢
  rw [h.mount]
  split
  · rfl
  · exact detached

/-- An embedded console stays embedded as it is, unless it is reset, and then it is not set up. -/
theorem Confined.embedded (h : Confined r c d) (embedded : c.panel.display = .embedded) :
    if r then d.panel.isReady = false else d.panel.display = .embedded ∧ d.panel.mount? = c.panel.mount? := by
  cases r with
  | true =>
    show d.panel.mount?.isSome = false
    rw [h.mount]
    rfl
  | false =>
    have mounted : d.panel.mount? = c.panel.mount? := h.mount
    refine ⟨?_, mounted⟩
    rw [Panel.display_eq_embedded_iff, mounted, ← Panel.display_eq_embedded_iff]
    exact embedded

/-- Only a console that was embedded shows that it is. -/
theorem Confined.embedded_before (h : Confined r c d) (embedded : d.panel.display = .embedded) :
    c.panel.display = .embedded := by
  obtain ⟨mount, mounted, isEmbedded⟩ := (Panel.display_eq_embedded_iff _).1 embedded
  rw [h.mount] at mounted
  split at mounted
  · cases mounted
  · exact (Panel.display_eq_embedded_iff _).2 ⟨mount, mounted, isEmbedded⟩

/-- A closed console stays closed. -/
theorem Confined.closed (h : Confined r c d) (closed : c.panel.display = .closed) : d.panel.display = .closed := by
  obtain ⟨hidden, apart⟩ := (Panel.display_eq_closed_iff _).1 closed
  refine (Panel.display_eq_closed_iff _).2 ⟨?_, fun embedded => apart (h.embedded_before embedded)⟩
  rw [Bool.eq_false_iff] at hidden ⊢
  exact fun shown => hidden (h.overlay shown)

/-- A console that is displayed over the host was so before. -/
theorem Confined.displayed (h : Confined r c d) (displayed : d.panel.display = .opened ∨ d.panel.display = .fullscreen) :
    c.panel.display = .opened ∨ c.panel.display = .fullscreen := by
  rw [← Panel.isOverlay_display_iff] at displayed ⊢
  exact h.overlay displayed

end Console

/-! ## Sessions -/

namespace Session

/-- The stock command that a submitted line is given to, if any. -/
def stock? (line : String) (s : Session) : Option Stock :=
  if Text.isBlank line then none
  else
    (dispatch Console.facade s.registry s.forwarder.delegate line (s.console.append (Console.echo line))).report.stock?

/-- Whether some of the lines, handled one after the other, is given to the stock command that resets the console. -/
def resets : List String → Session → Bool
  | [], _ => false
  | line :: lines, s => decide (s.stock? line = some .consoleReset) || (s.handle line).state.resets lines

/-- A line is confined, and it resets the console if that is the command it is given to. -/
theorem confined_handle (line : String) (s : Session) :
    Console.Confined (decide (s.stock? line = some .consoleReset)) s.console (s.handle line).state.console := by
  rw [console_handle, Console.Step.ops]
  unfold stock?
  by_cases blank : Text.isBlank line = true
  · rw [if_pos blank, if_pos blank]
    exact .refl s.console
  · rw [if_neg blank, if_neg blank, Console.performAll_cons]
    have echo := Console.Confined.print .console (Console.echo line) s.console
    let run := dispatch Console.facade s.registry s.forwarder.delegate line (s.console.append (Console.echo line))
    have typed : ∀ call ∈ run.calls, call.CanBeTyped := fun _ => canBeTyped_of_mem_calls
    have resets : Call.reset ∈ run.calls ↔ run.report.stock? = some .consoleReset := reset_mem_calls_iff
    have rest := Console.Confined.calls typed (s.console.perform (.print .console (Console.echo line))).state
    rw [decide_eq_decide.2 resets] at rest
    exact echo.trans rest

/-- Lines are confined, and they reset the console if one of them does. -/
theorem confined_handleAll (lines : List String) (s : Session) :
    Console.Confined (s.resets lines) s.console (s.handleAll lines).state.console := by
  induction lines generalizing s with
  | nil => exact .refl s.console
  | cons line lines ih =>
    rw [handleAll_cons]
    exact (confined_handle line s).trans (ih (s.handle line).state)

/-- Typed input is confined. Whatever lines are handled, and so after each line of them:
a console that is not set up is not set up by them, one that is closed stays closed, and one that is displayed over the host was so
before; an embedded console stays embedded as it is until a line resets it, and then it is not set up any more; the live environment,
the capacity, whether mail can be sent, the registry and the forwarder's names and attachment never change; and the settings of the
host and the dock are what they were until a line resets the console, and have their defaults from then on. -/
theorem typed_input_confined (lines : List String) (s : Session) :
    let before := s.console
    let after := (s.handleAll lines).state.console
    ((before.panel.isReady = false → after.panel.isReady = false) ∧
      (before.panel.display = .closed → after.panel.display = .closed) ∧
      (after.panel.display = .opened ∨ after.panel.display = .fullscreen →
        before.panel.display = .opened ∨ before.panel.display = .fullscreen)) ∧
    (before.panel.display = .embedded →
      if s.resets lines then after.panel.isReady = false
      else after.panel.display = .embedded ∧ after.panel.mount? = before.panel.mount?) ∧
    (after.settings.liveEnvironment = before.settings.liveEnvironment ∧ after.capacity = before.capacity ∧
      after.canMail = before.canMail ∧ (s.handleAll lines).state.registry = s.registry ∧
      (s.handleAll lines).state.forwarder.names = s.forwarder.names ∧
      (s.handleAll lines).state.forwarder.attached = s.forwarder.attached) ∧
    (if s.resets lines then {} else before.settings).HostAgree after.settings ∧
      after.panel.dock = if s.resets lines then .usual else before.panel.dock := by
  have h := confined_handleAll lines s
  obtain ⟨console, commands, frame⟩ := handleAll_frame lines s
  refine ⟨⟨h.detached, h.closed, h.displayed⟩, h.embedded, ⟨h.live, h.capacity, h.canMail, ?_, ?_, ?_⟩, h.settings, h.dock⟩
  · rw [frame]
  · rw [frame]
    rfl
  · rw [frame]
    rfl

end Session

end DebugConsole
