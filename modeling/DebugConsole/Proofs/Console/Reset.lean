import DebugConsole.Proofs.Console.Failure
import DebugConsole.Proofs.Console.Reporting

/-!
# Resets

A console is reset directly, by a line, or when it is set up although it is set up already (`Console.ResetBy`). By whichever of these
routes, when its queues have been drained nothing of it is left but the live environment, the cap and whether mail can be sent
(`ResetBy.drain_eq`). So two consoles that agree in these three cannot be told apart any more.
-/

namespace DebugConsole

namespace Console

/-- A way to reset a console. -/
inductive Route
  | direct
  | line
  /-- A console that is set up already is reset when it is set up again. -/
  | setup (mount : Mount) (dock : Dock)

/-- The panel after a reset. -/
def Route.panel : Route → Panel
  | .direct | .line => .initial
  | .setup mount dock => .mounted mount dock

/-- A console is reset by some route, and this is what becomes of it. -/
inductive ResetBy : Route → Console → Console → Prop
  | direct (c : Console) : ResetBy .direct c (c.perform (.move .reset)).state
  /-- A line is dispatched to the console and given to the stock command for it. -/
  | process {registry : Registry} {delegate : Option (List String)} {line : String} {c : Console}
      (given : (dispatch facade registry delegate line c).report.stock? = some .consoleReset) :
      ResetBy .line c (dispatch facade registry delegate line c).state
  /-- A submitted line is given to the stock command for it. -/
  | submit {s : Session} {line : String} (given : s.stock? line = some .consoleReset) :
      ResetBy .line s.console (s.handle line).state.console
  | setup {mount : Mount} {dock : Dock} {c : Console} (ready : c.panel.isReady = true)
      (settable : c.settings.liveEnvironment = false) :
      ResetBy (.setup mount dock) c (c.perform (.move (.setup mount dock))).state

/-- A new console with the live environment, the cap and the mail flag of another one, and a panel. -/
def renewed (panel : Panel) (c : Console) : Console where
  panel := panel
  settings := { liveEnvironment := c.settings.liveEnvironment }
  capacity := c.capacity
  capacity_pos := c.capacity_pos
  canMail := c.canMail

/-- A reset and a drain leave nothing but what a new console may have as well. -/
theorem drain_reset (c : Console) : (c.perform (.move .reset)).state.drain.2 = c.renewed .initial := rfl

/-- Messages that are appended before a reset make no difference. -/
theorem renewed_appendAll (panel : Panel) (lines : List Line) (c : Console) :
    (c.appendAll lines).renewed panel = c.renewed panel := by
  rw [appendAll_frame]
  rfl

theorem drain_dispatch_reset {registry : Registry} {delegate : Option (List String)} {line : String} {c : Console}
    (given : (dispatch facade registry delegate line c).report.stock? = some .consoleReset) :
    (dispatch facade registry delegate line c).state.drain.2 = c.renewed .initial := by
  obtain ⟨remarks, confirmation, calls⟩ := calls_dispatch_reset given
  have traced : (dispatch facade registry delegate line c).state = _ := traced_dispatch facade registry delegate line c
  rw [traced, calls, Facade.after_append, Facade.after_append, after_reports]
  exact (drain_reset _).trans (renewed_appendAll _ _ c)

theorem drain_setup {c : Console} (ready : c.panel.isReady = true) (settable : c.settings.liveEnvironment = false)
    (mount : Mount) (dock : Dock) :
    (c.perform (.move (.setup mount dock))).state.drain.2 = c.renewed (.mounted mount dock) := by
  show (c.move (.setup mount dock)).state.drain.2 = _
  rw [state_setup settable, if_pos ready]
  rfl

/-- Whatever the route, a reset and a drain leave a new console behind. -/
theorem ResetBy.drain_eq {route : Route} {c d : Console} (h : ResetBy route c d) : d.drain.2 = c.renewed route.panel := by
  cases h with
  | direct => exact drain_reset c
  | process given => exact drain_dispatch_reset given
  | setup ready settable => exact drain_setup ready settable _ _
  | submit given =>
    rename_i s line
    unfold Session.stock? at given
    by_cases blank : Text.isBlank line = true
    · rw [if_pos blank] at given
      cases given
    · rw [if_neg blank] at given
      simp only [Session.handle, blank, Bool.false_eq_true, if_false]
      -- The echo of the line is gone like all that was appended before the reset.
      exact drain_dispatch_reset given

/-- Two consoles agree in what a reset keeps. -/
structure Alike (c d : Console) : Prop where
  live : c.settings.liveEnvironment = d.settings.liveEnvironment
  capacity : c.capacity = d.capacity
  canMail : c.canMail = d.canMail

theorem Alike.renewed_eq {c d : Console} (h : Alike c d) (panel : Panel) : c.renewed panel = d.renewed panel := by
  simp only [renewed, h.live, h.capacity, h.canMail]

/-- A new console can be made of one that nothing has happened to. -/
theorem renewed_initial (c : Console) :
    c.renewed .initial =
      (fresh { liveEnvironment := c.settings.liveEnvironment }).performAll [.recap c.capacity, .allowMail c.canMail] := by
  have capacity : max c.capacity 1 = c.capacity := Nat.max_eq_left c.capacity_pos
  simp only [performAll, List.foldl_cons, List.foldl_nil, perform, done, recap, fresh, capacity]
  rfl

/-- What a console does and tells in a life depends on the console alone, not on what was told before. -/
theorem Life.run_eq (steps : List Step) (life : Life) :
    (life.run steps).console = (run steps { console := life.console }).console ∧
      (life.run steps).told = life.told ++ (run steps { console := life.console }).told := by
  induction steps generalizing life with
  | nil => exact ⟨rfl, (List.append_nil _).symm⟩
  | cons step steps ih =>
    obtain ⟨console, told⟩ := ih (life.after step)
    obtain ⟨console', told'⟩ := ih (after step { console := life.console })
    refine ⟨console.trans console'.symm, ?_⟩
    rw [run_cons, run_cons, told, told', ← List.append_assoc]
    rfl

/-- A reset erases history. Take any two consoles that agree in the live environment, the cap and whether mail can be sent, and reset
them by the same route: directly, each by some line for it, or by the same setup of a console that is set up already. Once their queues
have been drained they are the same console. So whatever steps follow, nothing tells them apart: neither what they come to, nor what
they tell after the first drain, nor what they answer to an operation or report on a line at any time. After a reset that is no setup
the console is a new one with default settings, but for the three. -/
theorem reset_erases_history {route : Route} {c d c' d' : Console} (alike : Alike c d) (first : ResetBy route c c')
    (second : ResetBy route d d') :
    c'.drain.2 = d'.drain.2 ∧
      (∀ steps : List Step,
        let one := Life.run (.drain :: steps) { console := c' }
        let other := Life.run (.drain :: steps) { console := d' }
        one.console = other.console ∧ one.told.tail = other.told.tail ∧
          (∀ op, (one.console.perform op).answer = (other.console.perform op).answer) ∧
          ∀ registry delegate line,
            (dispatch facade registry delegate line one.console).report =
              (dispatch facade registry delegate line other.console).report) ∧
      ((∀ mount dock, route ≠ .setup mount dock) →
        c'.drain.2 =
          (fresh { liveEnvironment := c.settings.liveEnvironment }).performAll
            [.recap c.capacity, .allowMail c.canMail]) := by
  have same : c'.drain.2 = d'.drain.2 := by
    rw [first.drain_eq, second.drain_eq, alike.renewed_eq]
  refine ⟨same, ?_, ?_⟩
  · intro steps one other
    have drained : ∀ e : Console,
        (Life.run (.drain :: steps) { console := e }).console = (Life.run steps { console := e.drain.2 }).console ∧
          (Life.run (.drain :: steps) { console := e }).told.tail = (Life.run steps { console := e.drain.2 }).told := by
      intro e
      obtain ⟨console, told⟩ := Life.run_eq steps (Life.after .drain { console := e })
      refine ⟨console, ?_⟩
      rw [Life.run_cons, told]
      rfl
    obtain ⟨console, told⟩ := drained c'
    obtain ⟨console', told'⟩ := drained d'
    rw [same] at console told
    have together : one.console = other.console := console.trans console'.symm
    refine ⟨together, told.trans told'.symm, fun op => ?_, fun registry delegate line => ?_⟩
    · rw [together]
    · rw [together]
  · intro unmounted
    have panel : route.panel = .initial := by
      cases route with
      | setup mount dock => exact absurd rfl (unmounted mount dock)
      | _ => rfl
    rw [first.drain_eq, panel, renewed_initial]

/-- A console in use and another one that was hardly touched are reset by different lines. The drain tells them apart, by what the host
is still owed of the first, and after it nothing does. -/
theorem reset_erases_history_of_two_lines :
    let c : Console := ({} : Console).performAll
      [.move (.setup .popover .left), .move .openPanel, .print .both ⟨.info, "secret"⟩, .sendMail ["dev"]]
    let d : Console := ({} : Console).performAll [.set (.flag .diagnosticMode true)]
    let c' := (dispatch facade {} none "-consolereset" c).state
    let d' := (dispatch facade {} (some []) "-ConsoleReset now" d).state
    c'.drain.1 ≠ d'.drain.1 ∧ c'.drain.2 = d'.drain.2 := by
  intro c d c' d'
  have alike : Alike c d := ⟨rfl, rfl, rfl⟩
  have first : ResetBy .line c c' := .process (by decide +kernel)
  have second : ResetBy .line d d' := .process (by decide +kernel)
  have told : c'.drain.1 ≠ d'.drain.1 := by decide +kernel
  exact ⟨told, (reset_erases_history alike first second).1⟩

end Console

end DebugConsole
