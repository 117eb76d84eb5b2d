import DebugConsole.Proofs.Console.Announcement

/-!
# Live environments

A console in a live environment is never set up. Its host may operate it and its users may type what they like: as long as nobody
writes the setting itself, be it directly or with other settings, the console stays detached.

`live_environment_refuses_setup` says so of every life of such a console, with all that its host can see of it: setups are refused
and no event is told but resets. One operation keeps a console `Dormant` and queues resets at most (`Dormant.perform`), so a life does
(`Life.dormant`).
-/

namespace DebugConsole

namespace Console

/-- Whether an operation writes the setting for live environments directly. -/
def Op.writesLive : Op → Bool
  | .set (.flag .liveEnvironment _) => true
  | _ => false

/-- Whether a step writes it, directly or with all other settings. -/
def Step.writesLive : Step → Bool
  | .operate op => op.writesLive
  | .configure _ => true
  | _ => false

/-- Whether an operation is a setup. -/
def Op.isSetup : Op → Bool
  | .move (.setup _ _) | .setupPinned _ _ _ => true
  | _ => false

/-- A console of a live environment that is not set up. -/
structure Dormant (c : Console) : Prop where
  live : c.settings.liveEnvironment = true
  detached : c.panel.isReady = false

/-- Resets are all that a console adds to its queue of events until it has become another one. -/
def OnlyResets (c d : Console) : Prop :=
  ∃ n, d.queue.lifecycle = c.queue.lifecycle ++ List.replicate n .reset

/-- Whatever leaves the queue of events alone adds no event. -/
theorem OnlyResets.of_eq {c d : Console} (h : d.queue.lifecycle = c.queue.lifecycle) : c.OnlyResets d :=
  ⟨0, by rw [h, List.replicate_zero, List.append_nil]⟩

/-- No call of a stock command writes the setting for live environments. -/
theorem writesLive_opOf (call : Call) : (opOf call).writesLive = false := by
  cases call <;> rfl

/-- Steps that do not write the setting carry out no operation that does. -/
theorem writesLive_of_mem_ops {step : Step} (h : step.writesLive = false) {c : Console} {op : Op} (member : op ∈ step.ops c) :
    op.writesLive = false := by
  rcases Step.eq_or_call_of_mem_ops member with rfl | ⟨call, rfl⟩
  · exact h
  · exact writesLive_opOf call

/-- A dormant console refuses every setup. -/
theorem Dormant.refuses {c : Console} (h : c.Dormant) {op : Op} (setup : op.isSetup = true) :
    (c.perform op).answer = .error .liveEnvironment ∧ (c.perform op).state = c := by
  cases op with
  | move m =>
    cases m with
    | setup mount dock =>
      simp only [perform, move_setup_of_live h.live]
      exact ⟨rfl, rfl⟩
    | _ => cases setup
  | setupPinned mount corner size =>
    simp only [perform, setupPinned, move_setup_of_live h.live]
    exact ⟨rfl, rfl⟩
  | _ => cases setup

/-- A panel that is not set up can be reset and makes no other move than a setup. -/
theorem movePanel_of_detached {c : Console} (h : c.panel.isReady = false) {m : Move} (setup : m.operation ≠ .setup)
    (reset : m.operation ≠ .reset) : (c.movePanel m).2 = c := by
  obtain ⟨dock, detached⟩ := Panel.exists_detached h
  unfold movePanel
  rw [detached]
  cases m with
  | setup mount dock => exact absurd rfl setup
  | reset => exact absurd rfl reset
  | _ => rfl

/-- A dormant console that is reset stays dormant, and the reset is all that is told. -/
theorem Dormant.reset {c : Console} (h : c.Dormant) : c.reset.2.Dormant ∧ c.OnlyResets c.reset.2 := by
  refine ⟨⟨h.live, rfl⟩, 1, ?_⟩
  have hidden : c.panel.display.isOverlay = false := by
    obtain ⟨dock, detached⟩ := Panel.exists_detached h.detached
    rw [detached]
    rfl
  show c.queue.lifecycle ++ Lifecycle.announcing ⟨c.panel.display, .reset, .usual, .closed⟩ = _
  simp only [Lifecycle.announcing, hidden, Bool.false_eq_true, and_false, if_false, List.nil_append, List.replicate_one]
  rfl

/-- No move wakes a dormant console. -/
theorem Dormant.move {c : Console} (h : c.Dormant) (m : Move) :
    (c.move m).state.Dormant ∧ c.OnlyResets (c.move m).state := by
  have still : ∀ m : Move, m.operation ≠ .setup → m.operation ≠ .reset →
      (c.movePanel m).2.Dormant ∧ c.OnlyResets (c.movePanel m).2 := by
    intro m setup reset
    rw [movePanel_of_detached h.detached setup reset]
    exact ⟨h, .of_eq rfl⟩
  cases m with
  | setup mount dock =>
    rw [move_setup_of_live h.live]
    exact ⟨h, .of_eq rfl⟩
  | reset => exact h.reset
  | openPanel => exact still .openPanel nofun nofun
  | closePanel => exact still .closePanel nofun nofun
  | enterFullscreen => exact still .enterFullscreen nofun nofun
  | exitFullscreen newDock => exact still (.exitFullscreen newDock) nofun nofun
  | remove => exact still .remove nofun nofun

/-- No operation wakes a dormant console unless it writes the setting for live environments. -/
theorem Dormant.perform {c : Console} (h : c.Dormant) {op : Op} (untouched : op.writesLive = false) :
    (c.perform op).state.Dormant ∧ c.OnlyResets (c.perform op).state := by
  cases op with
  | move m => exact h.move m
  | setupPinned mount corner size =>
    rw [(h.refuses rfl).2]
    exact ⟨h, .of_eq rfl⟩
  | set setting =>
    refine ⟨⟨?_, h.detached⟩, .of_eq rfl⟩
    have kept : (c.settings.set setting).liveEnvironment = c.settings.liveEnvironment := by
      cases setting with
      | color slot value => cases slot <;> rfl
      | flag f value =>
        cases f with
        | liveEnvironment => cases untouched
        | _ => rfl
      | length side value => cases side <;> rfl
      | position value => rfl
    exact kept.trans h.live
  | print destination line => cases destination <;> exact ⟨⟨h.live, h.detached⟩, .of_eq rfl⟩
  | _ => exact ⟨⟨h.live, h.detached⟩, .of_eq rfl⟩

namespace Life

/-- A life whose console is dormant and has told and queued no event but resets. -/
structure Dormant (life : Life) : Prop where
  console : life.console.Dormant
  resets : ∀ e ∈ life.lifecycle, e = .reset

/-- An operation that does not write the setting keeps a life dormant. -/
theorem Dormant.operate {life : Life} (h : life.Dormant) {op : Op} (untouched : op.writesLive = false) :
    (life.operate op).Dormant := by
  obtain ⟨console, n, added⟩ := h.console.perform untouched
  refine ⟨console, ?_⟩
  intro e member
  have all : (life.operate op).lifecycle = life.lifecycle ++ List.replicate n .reset := by
    show life.told.flatMap Delivery.lifecycle ++ (life.console.perform op).state.queue.lifecycle = _
    rw [added, ← List.append_assoc]
    rfl
  rw [all, List.mem_append] at member
  rcases member with before | new
  · exact h.resets e before
  · exact List.eq_of_mem_replicate new

/-- A drain moves events from the queue to the host. -/
theorem Dormant.drain {life : Life} (h : life.Dormant) : (life.after .drain).Dormant := by
  refine ⟨⟨h.console.live, h.console.detached⟩, ?_⟩
  have same : (life.after .drain).lifecycle = life.lifecycle := by
    simp [lifecycle, after, take, Console.drain]
  rw [same]
  exact h.resets

/-- A live environment stays dormant through every life in which the setting is not written. -/
theorem dormant {settings : Settings} (live : settings.liveEnvironment = true) {steps : List Step}
    (untouched : ∀ step ∈ steps, step.writesLive = false) : ((start settings).run steps).Dormant := by
  apply run_induction_within (P := Dormant) (A := fun step => step.writesLive = false)
  · intro step untouched c op member life h
    exact h.operate (writesLive_of_mem_ops untouched member)
  · intro life settings written
    exact nomatch written
  · intro life h
    exact h.drain
  · exact untouched
  · exact ⟨⟨live, rfl⟩, nofun⟩

/-- A console of a live environment is never set up. Through any life in which nobody writes the setting itself, the environment
stays live, the console is not ready and nothing of it is displayed, every setup on the way was refused for that reason, and the host
is told no event but resets. -/
theorem live_environment_refuses_setup (settings : Settings) (live : settings.liveEnvironment = true) (steps : List Step)
    (untouched : ∀ step ∈ steps, step.writesLive = false) :
    let life := (start settings).run steps
    life.console.settings.liveEnvironment = true ∧ life.console.panel.isReady = false ∧
      life.console.panel.display = .closed ∧ (∀ e ∈ life.lifecycle, e = .reset) ∧
      ∀ before op after, steps = before ++ .operate op :: after → op.isSetup = true →
        (((start settings).run before).console.perform op).answer = .error .liveEnvironment := by
  have h := dormant live untouched
  refine ⟨h.console.live, h.console.detached, ?_, h.resets, ?_⟩
  · obtain ⟨dock, detached⟩ := Panel.exists_detached h.console.detached
    rw [detached]
    rfl
  · rintro before op after rfl setup
    have earlier : ((start settings).run before).Dormant := by
      refine dormant live fun step member => untouched step ?_
      exact List.mem_append_left _ member
    exact (earlier.console.refuses setup).1

/-- A reset does not make room for a setup: it keeps the environment live, so the setup after it is refused as the one before it was. -/
theorem live_environment_refuses_setup_after_reset :
    let settings : Settings := { liveEnvironment := true }
    let before : List Step := [.operate (.move (.setup .textPopover .left)), .submit {} {} "-ConsoleReset now", .drain]
    let setup : Op := .move (.setup .view .usual)
    (∀ step ∈ before ++ [.operate setup], step.writesLive = false) ∧
      ((start settings).run before).lifecycle = [.reset] ∧
      (((start settings).run before).console.perform setup).answer = .error .liveEnvironment ∧
      ((start settings).run (before ++ [.operate setup])).console.panel.isReady = false := by
  intro settings before setup
  have untouched : ∀ step ∈ before ++ [.operate setup], step.writesLive = false := by decide
  have told : ((start settings).run before).lifecycle = [.reset] := by decide +kernel
  obtain ⟨-, detached, -, -, refused⟩ := live_environment_refuses_setup settings rfl (before ++ [.operate setup]) untouched
  exact ⟨untouched, told, refused before setup [] rfl rfl, detached⟩

end Life

end Console

end DebugConsole
