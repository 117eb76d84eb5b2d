import DebugConsole.Proofs.Console.Life
import DebugConsole.Proofs.Console.Operation

/-!
# The lines of a client

A client that shows the lines of a console keeps a list of its own: with each delivery it forgets its lines if the console asks for
that, and then appends the lines it is told. `client_after_drain` says that after a drain the list is what was appended to the
console since it was last cleared or reset, and that the buffer of the console is the end of it.

Between two drains the client lags behind. The invariant `Life.Mirrored` therefore compares what its list would become with what is
in the queue now.
-/

namespace DebugConsole

/-- The lines of a client after a delivery. -/
def Delivery.applyTo (d : Delivery) (lines : List Line) : List Line :=
  (if d.cleared then [] else lines) ++ d.outputs

/-- A delivery of nothing leaves a client as it is. -/
@[simp]
theorem Delivery.applyTo_nothing (lines : List Line) : ({} : Delivery).applyTo lines = lines :=
  List.append_nil lines

namespace Console

/-- A line that is appended becomes the end of the buffer, whose oldest lines may go. -/
theorem appended_suffix {lines all : List Line} (h : lines <:+ all) (capacity : Nat) (l : Line) :
    appended lines capacity l <:+ all ++ [l] := by
  obtain ⟨before, rfl⟩ := h
  refine ⟨before ++ lines.take (lines.length + 1 - capacity), ?_⟩
  simp only [appended, List.append_assoc, List.append_cancel_left_eq]
  rw [← List.append_assoc, List.take_append_drop]

/-- The buffer keeps all of its lines unless it is full. -/
theorem appended_eq_append_iff (lines : List Line) {capacity : Nat} (h : 0 < capacity) (l : Line) :
    appended lines capacity l = lines ++ [l] ↔ lines.length < capacity := by
  unfold appended
  rw [List.append_cancel_right_eq]
  constructor
  · intro same
    have length := congrArg List.length same
    rw [List.length_drop] at length
    omega
  · intro room
    rw [Nat.sub_eq_zero_of_le room, List.drop_zero]

namespace Life

/-- The lines of a client that received all that was told. -/
def client (life : Life) : List Line :=
  life.told.foldl (fun lines d => d.applyTo lines) []

/-- A drain would bring the client up to date, and the buffer is the end of all lines, of which it misses some if and only if the cap
pushed out one. -/
structure Mirrored (life : Life) : Prop where
  queued : life.console.queue.applyTo life.client = life.ledger.lines
  buffered : life.console.lines <:+ life.ledger.lines
  whole : life.ledger.evicted = false ↔ life.console.lines = life.ledger.lines

/-- What touches neither the lines nor their queue keeps the client and the console together. -/
theorem Mirrored.keep {life : Life} (h : life.Mirrored) {d : Console} (lines : d.lines = life.console.lines)
    (outputs : d.queue.outputs = life.console.queue.outputs) (cleared : d.queue.cleared = life.console.queue.cleared) :
    { life with console := d : Life }.Mirrored := by
  obtain ⟨queued, buffered, whole⟩ := h
  refine ⟨?_, ?_, ?_⟩
  · unfold Delivery.applyTo at queued ⊢
    rw [outputs, cleared]
    exact queued
  · rw [lines]
    exact buffered
  · rw [lines]
    exact whole

/-- A console that was emptied has the client forget its lines too. -/
theorem Mirrored.empty {life : Life} {d : Console} (lines : d.lines = []) (outputs : d.queue.outputs = [])
    (cleared : d.queue.cleared = true) : { life with console := d, ledger := {} : Life }.Mirrored := by
  refine ⟨?_, ?_, ?_⟩
  · simp [Delivery.applyTo, outputs, cleared]
  · exact lines.symm ▸ List.suffix_refl []
  · simp [lines]

/-- A line that is appended to the buffer is in the queue for the client as well. -/
theorem Mirrored.append {life : Life} (h : life.Mirrored) (l : Line) :
    { life with
      console := life.console.append l
      ledger := {
        lines := life.ledger.lines ++ [l]
        evicted := life.ledger.evicted || decide (life.console.capacity ≤ life.console.lines.length) } : Life }.Mirrored := by
  obtain ⟨queued, buffered, whole⟩ := h
  refine ⟨?_, appended_suffix buffered _ l, ?_⟩
  · show (if _ then _ else _) ++ (life.console.queue.outputs ++ [l]) = _
    rw [← List.append_assoc]
    exact congrArg (· ++ [l]) queued
  · show (_ || _) = false ↔ appended life.console.lines life.console.capacity l = life.ledger.lines ++ [l]
    rw [Bool.or_eq_false_iff, decide_eq_false_iff_not, Nat.not_le, whole,
      ← appended_eq_append_iff _ life.console.capacity_pos l]
    constructor
    · rintro ⟨same, room⟩
      rw [room, same]
    · -- The buffer cannot be longer than all lines, so if the new ends agree nothing was dropped.
      intro same
      have length := congrArg List.length same
      have le := buffered.length_le
      simp only [appended, List.length_append, List.length_drop, List.length_singleton] at length
      have all : life.console.lines = life.ledger.lines := buffered.eq_of_length (by omega)
      exact ⟨all, by rw [all] at same ⊢; exact same⟩

/-- A setup empties a console that is set up already, unless it is refused. -/
theorem Mirrored.setup {life : Life} (h : life.Mirrored) (mount : Mount) (dock : Dock) :
    (life.operate (.move (.setup mount dock))).Mirrored := by
  show Mirrored
    { life with
      console := (life.console.move (.setup mount dock)).state
      ledger :=
        if life.console.panel.isReady = true ∧ life.console.settings.liveEnvironment = false then {} else life.ledger }
  by_cases live : life.console.settings.liveEnvironment = true
  · rw [move_setup_of_live live, if_neg (by simp [live])]
    exact h
  · rw [state_setup (Bool.eq_false_iff.2 live)]
    by_cases ready : life.console.panel.isReady = true
    · rw [if_pos ready, if_pos ⟨ready, Bool.eq_false_iff.2 live⟩]
      exact .empty (by simp) (by rw [outputs_movePanel]; rfl) (by rw [cleared_movePanel]; rfl)
    · rw [if_neg ready, if_neg (fun both => ready both.1)]
      exact h.keep (lines_movePanel _ _) (outputs_movePanel _ _) (cleared_movePanel _ _)

theorem Mirrored.move {life : Life} (h : life.Mirrored) (m : Move) : (life.operate (.move m)).Mirrored := by
  have panel : ∀ m, { life with console := (life.console.movePanel m).2 : Life }.Mirrored := fun m =>
    h.keep (lines_movePanel m _) (outputs_movePanel m _) (cleared_movePanel m _)
  cases m with
  | setup mount dock => exact h.setup mount dock
  | reset => exact .empty rfl rfl rfl
  | openPanel => exact panel .openPanel
  | closePanel => exact panel .closePanel
  | enterFullscreen => exact panel .enterFullscreen
  | exitFullscreen newDock => exact panel (.exitFullscreen newDock)
  | remove => exact panel .remove

/-- No operation drives the client and the console apart. -/
theorem Mirrored.operate {life : Life} (h : life.Mirrored) (op : Op) : (life.operate op).Mirrored := by
  cases op with
  | move m => exact h.move m
  | setupPinned mount corner size =>
    obtain ⟨settings, pinned⟩ := state_setupPinned mount corner size life.console
    have same : life.operate (.setupPinned mount corner size) =
        { life.operate (.move (.setup mount .usual)) with
          console := (life.operate (.move (.setup mount .usual))).console.withSettings settings } := by
      show { life with console := (life.console.perform (.setupPinned mount corner size)).state, ledger := _ : Life } = _
      rw [pinned]
      rfl
    rw [same]
    exact (h.setup mount .usual).keep rfl rfl rfl
  | print destination line =>
    cases destination with
    | hostOnly => exact h
    | console => exact h.append line
    | both => exact h.append line
  | clear => exact .empty rfl rfl rfl
  | _ => exact h.keep rfl rfl rfl

/-- With a drain the client catches up. -/
theorem client_drain {life : Life} (h : life.Mirrored) : (life.after .drain).client = life.ledger.lines := by
  have told : (life.after .drain).client = life.console.queue.applyTo life.client := by
    simp [client, after, take, drain]
  rw [told, h.queued]

theorem Mirrored.drain {life : Life} (h : life.Mirrored) : (life.after .drain).Mirrored := by
  refine ⟨?_, h.buffered, h.whole⟩
  show ({} : Delivery).applyTo (life.after .drain).client = life.ledger.lines
  rw [Delivery.applyTo_nothing, client_drain h]

/-- In every life the client and the console stay together. -/
theorem mirrored (settings : Settings) (steps : List Step) : ((start settings).run steps).Mirrored := by
  apply run_induction (P := Mirrored)
  · intro life op h
    exact h.operate op
  · intro life settings h
    have same : life.after (.configure settings) = { life with console := life.console.withSettings settings } := by
      simp only [after, take, Step.ops, Ledger.noteAll, List.append_nil]
    rw [same]
    exact h.keep rfl rfl rfl
  · intro life h
    exact h.drain
  · exact ⟨rfl, List.suffix_refl [], by simp [start, fresh]⟩

/-- Right after any drain a client has exactly the lines that were appended to the console since it was last cleared or reset. The
buffer of the console is the end of them, and it is all of them if and only if the cap pushed out none. -/
theorem client_after_drain (settings : Settings) (steps : List Step) :
    let life := (start settings).run (steps ++ [.drain])
    life.client = life.ledger.lines ∧ life.console.lines <:+ life.client ∧
      (life.ledger.evicted = false ↔ life.console.lines = life.client) := by
  have before := mirrored settings steps
  have after := before.drain
  have current := client_drain before
  simp only [run_append, run_cons, run_nil]
  refine ⟨current, ?_, ?_⟩
  · rw [current]
    exact after.buffered
  · rw [current]
    exact after.whole

end Life

end Console

end DebugConsole
