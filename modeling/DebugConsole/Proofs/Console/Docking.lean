import DebugConsole.Proofs.Console.Operation
import DebugConsole.Proofs.Session.Confinement
import Mathlib.Data.List.Infix

/-!
# Where a console is docked

A console that returns from fullscreen is docked where it was before. Nobody keeps a copy of that dock: the panel has one dock, which
stays what it is because so little writes to it. `Step.dock?` is what does: a setup and a reset that are made, a return from fullscreen
to a new dock, and a line that resets the console.

`Docks` compares a console with what becomes of it: the dock is the one that was fixed, or else the one before, and nothing that
fixes the dock leads to fullscreen. Every step is such a change (`docks_take`). So after any life the dock is the one fixed last
(`dock_run`), and a stay in fullscreen, however long, does not change it (`dock_during`). `dock_remembered` puts the two together.
-/

namespace DebugConsole

/-- The dock that a move fixes when it is made. -/
def Move.dock? : Move → Option Dock
  | .setup mount dock => some (if mount.isEmbedded then .usual else dock)
  | .exitFullscreen newDock => newDock
  | .reset => some .usual
  | .openPanel | .closePanel | .enterFullscreen | .remove => none

/-- The dock that a move has fixed, going by the answer to it. -/
def Move.fixed? {α : Type} (m : Move) (answer : Except Problem α) : Option Dock :=
  match answer with
  | .ok _ => m.dock?
  | .error _ => none

@[simp]
theorem Move.fixed?_map {α β : Type} (m : Move) (f : α → β) (answer : Except Problem α) :
    m.fixed? (answer.map f) = m.fixed? answer := by
  cases answer <;> rfl

/-- The dock that a stock command fixes. A return from fullscreen by a command keeps the dock. -/
def Stock.dock? : Stock → Option Dock
  | .consoleReset => some .usual
  | _ => none

namespace Panel

/-- After a move a panel is docked where the move has fixed it, or else where it was. -/
theorem dock_step {p q : Panel} {m : Move} (h : p.step m = .ok q) : q.dock = m.dock?.getD p.dock := by
  cases m with
  | setup mount dock =>
    cases h
    cases mount <;> rfl
  | _ => rcases p with _ | ⟨_, _, _ | _ | _⟩ | _ <;> cases h <;> rfl

/-- A move that leads to fullscreen fixes no dock. -/
theorem dock?_of_fullscreen {p q : Panel} {m : Move} (h : p.step m = .ok q) (full : q.display = .fullscreen) :
    m.dock? = none := by
  cases m with
  | setup mount dock =>
    cases h
    cases mount <;> cases full
  | _ => rcases p with _ | ⟨_, _, _ | _ | _⟩ | _ <;> cases h <;> first | rfl | cases full

theorem exists_full {p : Panel} (full : p.display = .fullscreen) : ∃ textField dock, p = popover textField dock .full := by
  rcases p with _ | ⟨textField, dock, _ | _ | _⟩ | _ <;> first | exact ⟨textField, dock, rfl⟩ | cases full

end Panel

namespace Console

/-! ## What fixes the dock -/

/-- The dock that an operation has fixed, going by the answer to it. -/
def Op.dock? (op : Op) (answer : Except Problem (Option Transition)) : Option Dock :=
  match op with
  | .move m => m.fixed? answer
  | .setupPinned mount _ _ => (Move.setup mount .usual).fixed? answer
  | _ => none

/-- The dock that a step fixes. For a line it is the one of the stock command that the line is given to. -/
def Step.dock? (step : Step) (c : Console) : Option Dock :=
  match step with
  | .operate op => op.dock? (c.perform op).answer
  | .process registry delegate line => (dispatch facade registry delegate line c).report.stock?.bind Stock.dock?
  | .submit registry forwarder line => (Session.stock? line { console := c, registry, forwarder }).bind Stock.dock?
  | .configure _ | .drain => none

/-- A console is docked where something has fixed it, or else where it was, and is not in fullscreen if something has. -/
structure Docks (fixed? : Option Dock) (c d : Console) : Prop where
  dock : d.panel.dock = fixed?.getD c.panel.dock
  fixed : d.panel.display = .fullscreen → fixed? = none

/-- Whatever leaves the panel alone fixes no dock. -/
theorem Docks.of_eq {c d : Console} (h : d.panel = c.panel) : Docks none c d :=
  ⟨congrArg Panel.dock h, fun _ => rfl⟩

/-- Where a console was docked is of no interest once its dock is fixed. -/
theorem Docks.forget {dock : Dock} {c d e : Console} (h : Docks (some dock) d e) : Docks (some dock) c e :=
  ⟨h.dock, h.fixed⟩

theorem docks_movePanel (m : Move) (c : Console) : Docks (m.fixed? (c.movePanel m).1) c (c.movePanel m).2 := by
  unfold movePanel
  split
  · exact .of_eq rfl
  · rename_i p h
    exact ⟨Panel.dock_step h, Panel.dock?_of_fullscreen h⟩

theorem docks_move (m : Move) (c : Console) : Docks (m.fixed? (c.move m).answer) c (c.move m).state := by
  cases m with
  | setup mount dock =>
    by_cases live : c.settings.liveEnvironment = true
    · rw [move_setup_of_live live]
      exact .of_eq rfl
    · -- The console may be reset first, but the setup fixes the dock after that.
      simp only [move, live, Bool.false_eq_true, if_false]
      exact (docks_movePanel (.setup mount dock) _).forget
  | reset =>
    have cleared := docks_movePanel .reset ({ c with settings := c.settings.reset } : Console).clear
    exact ⟨cleared.dock, cleared.fixed⟩
  | openPanel => exact docks_movePanel .openPanel c
  | closePanel => exact docks_movePanel .closePanel c
  | enterFullscreen => exact docks_movePanel .enterFullscreen c
  | exitFullscreen newDock => exact docks_movePanel (.exitFullscreen newDock) c
  | remove => exact docks_movePanel .remove c

theorem docks_perform (op : Op) (c : Console) : Docks (op.dock? (c.perform op).answer) c (c.perform op).state := by
  cases op with
  | move m =>
    have moved := docks_move m c
    rw [← Move.fixed?_map m some] at moved
    exact moved
  | setupPinned mount corner size =>
    have moved := docks_move (.setup mount .usual) c
    rw [← Move.fixed?_map _ some] at moved
    simp only [perform, setupPinned]
    split
    · exact moved
    · exact ⟨moved.dock, moved.fixed⟩
  | print destination line => cases destination <;> exact .of_eq rfl
  | _ => exact .of_eq rfl

/-- What is confined fixes the dock if it is a reset. -/
theorem Confined.docks {stock : Option Stock} {c d : Console} (h : Confined (decide (stock = some .consoleReset)) c d) :
    Docks (stock.bind Stock.dock?) c d := by
  by_cases reset : stock = some .consoleReset
  · subst reset
    refine ⟨h.dock, fun full => ?_⟩
    have mount : d.panel.mount? = none := h.mount
    obtain ⟨textField, dock, same⟩ := Panel.exists_full full
    rw [same] at mount
    cases mount
  · have kept : stock.bind Stock.dock? = none := by
      rw [Option.bind_eq_none_iff]
      intro command given
      cases command with
      | consoleReset => exact absurd given reset
      | _ => rfl
    have dock := h.dock
    rw [decide_eq_false reset] at dock
    rw [kept]
    exact ⟨dock, fun _ => rfl⟩

/-- Every step fixes the dock that it is said to fix, if any, and leaves it alone otherwise. -/
theorem docks_take (step : Step) (c : Console) : Docks (step.dock? c) c (c.take step).2 := by
  cases step with
  | operate op => exact docks_perform op c
  | configure settings => exact .of_eq rfl
  | drain => exact .of_eq rfl
  | process registry delegate line =>
    let run := dispatch facade registry delegate line c
    have typed : ∀ call ∈ run.calls, call.CanBeTyped := fun _ => canBeTyped_of_mem_calls
    have confined := Confined.calls typed c
    rw [← state_dispatch, decide_eq_decide.2 reset_mem_calls_iff] at confined
    exact confined.docks
  | submit registry forwarder line =>
    exact (Session.confined_handle line { console := c, registry, forwarder }).docks

/-! ## The way back from fullscreen -/

/-- From fullscreen a console returns to its dock. -/
theorem exit_of_fullscreen {c : Console} (full : c.panel.display = .fullscreen) :
    let left := c.perform (.move (.exitFullscreen none))
    left.answer = .ok (some ⟨.fullscreen, .exitFullscreen, c.panel.dock, .opened⟩) ∧
      left.state.panel.display = .opened ∧ left.state.panel.dock = c.panel.dock := by
  obtain ⟨textField, dock, same⟩ := Panel.exists_full full
  simp only [perform, move, movePanel, same, Panel.step]
  exact ⟨rfl, rfl, rfl⟩

/-- The line for the way back from fullscreen. -/
def exitLine : String := "-exitfullscreen"

/-- It is given to its stock command, whatever is registered or listed, and the console returns to its dock. -/
theorem dispatch_exitLine {c : Console} (full : c.panel.display = .fullscreen) (registry : Registry)
    (delegate : Option (List String)) :
    let run := dispatch facade registry delegate exitLine c
    run.report.problems = [] ∧ run.report.stock? = some .exitFullscreen ∧ run.state.panel.display = .opened ∧
      run.state.panel.dock = c.panel.dock := by
  have read : CommandLine.read exitLine = .ok ⟨⟨"exitfullscreen", []⟩, none⟩ := rfl
  obtain ⟨panel, settings, lines, capacity, positive, canMail, queue⟩ := c
  obtain ⟨textField, dock, rfl⟩ := Panel.exists_full full
  have active : Stock.exitFullscreen ∈ Stock.active canMail := Stock.mem_active_iff.2 (Bool.or_true _)
  rw [dispatch_stock read rfl active]
  exact ⟨rfl, rfl, rfl, rfl⟩

/-- The same when it is submitted in a session. -/
theorem handle_exitLine {c : Console} (full : c.panel.display = .fullscreen) (registry : Registry) (forwarder : Forwarder) :
    let left := (Session.handle exitLine { console := c, registry, forwarder }).state.console
    left.panel.display = .opened ∧ left.panel.dock = c.panel.dock := by
  have written : Text.isBlank exitLine = false := rfl
  obtain ⟨-, -, display, dock⟩ := dispatch_exitLine (c := c.append (echo exitLine)) full registry forwarder.delegate
  rw [Session.console_handle_of_written written]
  exact ⟨display, dock⟩

/-! ## Lives -/

namespace Life

/-- The docks that some steps of a life fix, the first one first. -/
def dockings : List Step → Life → List Dock
  | [], _ => []
  | step :: steps, life => (step.dock? life.console).toList ++ dockings steps (life.after step)

/-- After some steps a console is docked where it was fixed last, or else where it was. -/
theorem dock_run (steps : List Step) (life : Life) :
    (life.run steps).console.panel.dock = (life.dockings steps).getLast?.getD life.console.panel.dock := by
  induction steps generalizing life with
  | nil => rfl
  | cons step steps ih =>
    have first : (life.after step).console.panel.dock = (step.dock? life.console).getD life.console.panel.dock :=
      (docks_take step life.console).dock
    rw [run_cons, ih, first, dockings, List.getLast?_append]
    cases (dockings steps (life.after step)).getLast? <;> cases step.dock? life.console <;> rfl

/-- A step after which a console is in fullscreen has left the dock alone. -/
theorem dock_after {life : Life} {step : Step} (full : (life.after step).console.panel.display = .fullscreen) :
    (life.after step).console.panel.dock = life.console.panel.dock := by
  have docks := docks_take step life.console
  have dock := docks.dock
  rw [docks.fixed full] at dock
  exact dock

/-- While a console stays in fullscreen its dock does not change. -/
theorem dock_during {life : Life} (stay : List Step)
    (full : ∀ part, part <+: stay → (life.run part).console.panel.display = .fullscreen) :
    (life.run stay).console.panel.dock = life.console.panel.dock := by
  induction stay generalizing life with
  | nil => rfl
  | cons step stay ih =>
    have first : (life.after step).console.panel.dock = life.console.panel.dock :=
      dock_after (full [step] (List.prefix_append [step] stay))
    rw [run_cons, ih fun part shorter => full (step :: part) (List.prefix_cons_inj step |>.2 shorter), first]

/-- The dock is remembered. After any life it is the one that was fixed last, or the usual one if none was, and a step that fixes none
leaves it alone. So if a step brings the console into fullscreen and it stays there through any others, then it is docked where it
was before, and there it returns, by a move or by a line. -/
theorem dock_remembered (settings : Settings) (steps : List Step) :
    let life := (start settings).run steps
    let dock := life.console.panel.dock
    dock = ((start settings).dockings steps).getLast?.getD .usual ∧
    (∀ step, step.dock? life.console = none → (life.after step).console.panel.dock = dock) ∧
    ∀ enter stay, (∀ part, part <+: stay → (life.run (enter :: part)).console.panel.display = .fullscreen) →
      let full := (life.run (enter :: stay)).console
      let left := full.perform (.move (.exitFullscreen none))
      (left.answer = .ok (some ⟨.fullscreen, .exitFullscreen, dock, .opened⟩) ∧ left.state.panel.display = .opened ∧
        left.state.panel.dock = dock) ∧
      (∀ registry delegate,
        let run := dispatch facade registry delegate exitLine full
        run.report.problems = [] ∧ run.report.stock? = some .exitFullscreen ∧ run.state.panel.display = .opened ∧
          run.state.panel.dock = dock) ∧
      ∀ registry forwarder,
        let left := (Session.handle exitLine { console := full, registry, forwarder }).state.console
        left.panel.display = .opened ∧ left.panel.dock = dock := by
  intro life dock
  refine ⟨dock_run steps (start settings), ?_, ?_⟩
  · intro step none
    have docks := (docks_take step life.console).dock
    rw [none] at docks
    exact docks
  · intro enter stay stays full left
    have entered : (life.after enter).console.panel.display = .fullscreen := stays [] List.nil_prefix
    have shown : full.panel.display = .fullscreen := stays stay (List.prefix_refl stay)
    have during : ((life.after enter).run stay).console.panel.dock = (life.after enter).console.panel.dock :=
      dock_during stay stays
    have kept : full.panel.dock = dock := during.trans (dock_after entered)
    rw [← kept]
    exact ⟨exit_of_fullscreen shown, dispatch_exitLine shown, handle_exitLine shown⟩

/-- A console at the left edge that is brought into fullscreen by a line is back at the left edge by another one. On the way it is asked
for a setup that would dock it elsewhere, in what has become a live environment, and for an opening, and refuses both. -/
theorem dock_remembered_left :
    let steps : List Step := [.operate (.move (.setup .textPopover .left)), .operate (.move .openPanel)]
    let enter : Step := .submit {} {} "-EnterFullscreen now"
    let stay : List Step :=
      [.operate (.set (.flag .liveEnvironment true)), .operate (.move (.setup .popover .top)),
        .process {} none "-textcolor red", .drain, .operate (.move .openPanel)]
    let life := (start {}).run steps
    (∀ part, part <+: stay → (life.run (enter :: part)).console.panel.display = .fullscreen) ∧
      (start {}).dockings steps = [.left] ∧
      (dispatch facade {} none exitLine (life.run (enter :: stay)).console).state.panel.dock = .left := by
  intro steps enter stay life
  have fixed : (start {}).dockings steps = [.left] := by decide +kernel
  have shown : ∀ part ∈ stay.inits, (life.run (enter :: part)).console.panel.display = .fullscreen := by decide +kernel
  have stays : ∀ part, part <+: stay → (life.run (enter :: part)).console.panel.display = .fullscreen :=
    fun part within => shown part ((List.mem_inits part stay).2 within)
  obtain ⟨docked, -, returns⟩ := dock_remembered {} steps
  obtain ⟨-, line, -⟩ := returns enter stay stays
  refine ⟨stays, fixed, ?_⟩
  rw [(line {} none).2.2.2, docked, fixed]
  rfl

end Life

end Console

end DebugConsole
