import DebugConsole.Console

/-!
# What operations do to a console

A setup is refused in a live environment and resets a console that is set up already. A reset empties the buffer, and a move of the
panel is told to the host by its events alone. An operation that fails does nothing (`state_of_error`).
-/

namespace DebugConsole

namespace Console

/-- A live environment is never set up. -/
theorem move_setup_of_live {c : Console} (live : c.settings.liveEnvironment = true) (mount : Mount) (dock : Dock) :
    c.move (.setup mount dock) = { answer := .error .liveEnvironment, state := c } := by
  simp only [move, live, if_true]

/-- Elsewhere a console is reset if it is set up already, and then its panel is set up. -/
theorem state_setup {c : Console} (live : c.settings.liveEnvironment = false) (mount : Mount) (dock : Dock) :
    (c.move (.setup mount dock)).state =
      ((if c.panel.isReady then c.reset.2 else c).movePanel (.setup mount dock)).2 := by
  simp only [move, live, Bool.false_eq_true, if_false]

/-- A reset empties the buffer. -/
@[simp]
theorem lines_reset (c : Console) : c.reset.2.lines = [] := rfl

/-- A move of the panel leaves the buffer alone. -/
@[simp]
theorem lines_movePanel (m : Move) (c : Console) : (c.movePanel m).2.lines = c.lines := by
  unfold movePanel
  split <;> rfl

@[simp]
theorem capacity_movePanel (m : Move) (c : Console) : (c.movePanel m).2.capacity = c.capacity := by
  unfold movePanel
  split <;> rfl

/-- A move of the panel is told to the host by its events alone. -/
@[simp]
theorem outputs_movePanel (m : Move) (c : Console) : (c.movePanel m).2.queue.outputs = c.queue.outputs := by
  unfold movePanel
  split <;> rfl

@[simp]
theorem cleared_movePanel (m : Move) (c : Console) : (c.movePanel m).2.queue.cleared = c.queue.cleared := by
  unfold movePanel
  split <;> rfl

/-- What a console has, and still has when it is reset, it has after any move that keeps it as one of the panel. A panel is set up only
when it is not set up yet, because it is reset first if it is. -/
theorem move_induction {P : Console → Prop} {c : Console} (m : Move) (start : P c) (reset : P c.reset.2)
    (panel : ∀ d m, (∀ mount dock, m = .setup mount dock → d.panel.isReady = false) → P d → P (d.movePanel m).2) :
    P (c.move m).state := by
  cases m with
  | setup mount dock =>
    by_cases live : c.settings.liveEnvironment = true
    · rw [move_setup_of_live live]
      exact start
    · rw [state_setup (Bool.eq_false_iff.2 live)]
      by_cases ready : c.panel.isReady = true
      · rw [if_pos ready]
        exact panel _ _ (fun _ _ _ => rfl) reset
      · rw [if_neg ready]
        exact panel _ _ (fun _ _ _ => Bool.eq_false_iff.2 ready) start
  | reset => exact reset
  | openPanel => exact panel c .openPanel nofun start
  | closePanel => exact panel c .closePanel nofun start
  | enterFullscreen => exact panel c .enterFullscreen nofun start
  | exitFullscreen newDock => exact panel c (.exitFullscreen newDock) nofun start
  | remove => exact panel c .remove nofun start

/-- A setup for a rectangle differs from one for an edge in the settings alone. -/
theorem state_setupPinned (mount : Mount) (corner size : Point) (c : Console) :
    ∃ settings, (c.perform (.setupPinned mount corner size)).state =
      (c.perform (.move (.setup mount .usual))).state.withSettings settings := by
  simp only [perform, ofMove, setupPinned]
  split
  · exact ⟨_, rfl⟩
  · exact ⟨_, rfl⟩

/-- A move of the panel that fails leaves everything alone. -/
theorem state_movePanel_of_error {m : Move} {c : Console} {p : Problem} (h : (c.movePanel m).1 = .error p) :
    (c.movePanel m).2 = c := by
  unfold movePanel at h ⊢
  split
  · rfl
  · rename_i after made
    rw [made] at h
    cases h

/-- A move that fails leaves everything alone. A setup that is refused is refused before it resets the console. -/
theorem state_move_of_error {m : Move} {c : Console} {p : Problem} (h : (c.move m).answer = .error p) :
    (c.move m).state = c := by
  cases m with
  | setup mount dock =>
    by_cases live : c.settings.liveEnvironment = true
    · rw [move_setup_of_live live]
    · simp only [move, live, Bool.false_eq_true, if_false] at h
      cases h
  | reset => cases h
  | openPanel => exact state_movePanel_of_error h
  | closePanel => exact state_movePanel_of_error h
  | enterFullscreen => exact state_movePanel_of_error h
  | exitFullscreen newDock => exact state_movePanel_of_error h
  | remove => exact state_movePanel_of_error h

/-- An operation that fails leaves everything alone. -/
theorem state_of_error {op : Op} {c : Console} {p : Problem} (h : (c.perform op).answer = .error p) :
    (c.perform op).state = c := by
  have failed : ∀ {answer : Except Problem Transition}, answer.map some = .error p → answer = .error p := by
    rintro (_ | _) same
    · exact congrArg Except.error (Except.error.inj same)
    · cases same
  cases op with
  | move m => exact state_move_of_error (failed h)
  | setupPinned mount corner size =>
    simp only [perform, ofMove, setupPinned] at h ⊢
    split at h
    · exact state_move_of_error (failed h)
    · rename_i made
      rw [made] at h
      cases h
  | _ => cases h

end Console

end DebugConsole
