import DebugConsole.Proofs.Console.Operation

/-!
# Why operations fail

Two guards stand before a move of a console: a live environment is never set up, and the panel makes only the moves that start from what
is on display. The second guard has guards of its own, and which problem is the answer depends on their order.

`Problem.Arises` says when each problem is the right one, of what can be read off the console and without an order. A problem that arises
is the answer (`answer_eq_error_iff`), so no two of them arise at once. An operation succeeds if and only if none arises, and if it fails
it leaves no trace (`perform_fails_iff`).
-/

namespace DebugConsole

/-- An operation does not start from what is on display. -/
def Operation.Misplaced (display : Display) : Operation → Prop
  | .openPanel => display ≠ .closed
  | .closePanel => display = .closed
  | .enterFullscreen => display ≠ .opened
  | .exitFullscreen => display ≠ .fullscreen
  | .setup | .reset | .remove => False

/-- An operation is one of a panel that is set up. -/
def Operation.NeedsSetup (operation : Operation) : Prop :=
  operation ≠ .setup ∧ operation ≠ .reset

/-- A reason to refuse an operation is given. -/
def Refusal.Arises (operation : Operation) (p : Panel) : Refusal → Prop
  | .setupRequired => operation.NeedsSetup ∧ p.isReady = false
  | .notForEmbedded => operation = .closePanel ∧ p.isReady = true ∧ p.display = .embedded
  | .wrongDisplay display => p.isReady = true ∧ display = p.display ∧ operation.Misplaced p.display

/-- A panel refuses a move for a reason that is given, and for no other. -/
theorem Panel.step_eq_error_iff {p : Panel} {m : Move} {reason : Refusal} :
    p.step m = .error reason ↔ reason.Arises m.operation p := by
  cases m with
  | setup mount dock | reset =>
    cases reason <;> simp [step, Refusal.Arises, Operation.NeedsSetup, Operation.Misplaced, Move.operation]
  | _ =>
    rcases p with _ | ⟨_, _, _ | _ | _⟩ | _ <;> cases reason <;>
      simp [step, Refusal.Arises, Operation.NeedsSetup, Operation.Misplaced, Move.operation, display, Extent.display, eq_comm]

namespace Console

/-- What an operation asks of the panel, if anything. -/
def Op.operation? : Op → Option Operation
  | .move m => some m.operation
  | .setupPinned _ _ _ => some .setup
  | _ => none

end Console

/-- A problem stands in the way of an operation on a console. -/
def Problem.Arises (op : Console.Op) (c : Console) : Problem → Prop
  | .liveEnvironment => op.operation? = some .setup ∧ c.settings.liveEnvironment = true
  | .refused operation reason => op.operation? = some operation ∧ reason.Arises operation c.panel
  | _ => False

namespace Console

variable {c : Console} {p : Problem}

/-- The panel of a console refuses a move if there is a reason for it. -/
theorem movePanel_eq_error_iff {m : Move} :
    (c.movePanel m).1 = .error p ↔ ∃ reason, p = .refused m.operation reason ∧ reason.Arises m.operation c.panel := by
  unfold movePanel
  simp only [← Panel.step_eq_error_iff]
  cases stepped : c.panel.step m with
  | error reason => simp [eq_comm]
  | ok q => simp

/-- The problem of an operation that asks something of the panel is the live environment of a setup, or the reason that the panel has. -/
theorem arises_iff {op : Op} (operation : Operation) (h : op.operation? = some operation) :
    p.Arises op c ↔
      (p = .liveEnvironment ∧ operation = .setup ∧ c.settings.liveEnvironment = true) ∨
        ∃ reason, p = .refused operation reason ∧ reason.Arises operation c.panel := by
  cases p with
  | liveEnvironment => simp [Problem.Arises, h]
  | refused asked reason =>
    simp only [Problem.Arises, h, Option.some.injEq, Problem.refused.injEq, reduceCtorEq, false_and, false_or]
    constructor
    · rintro ⟨rfl, given⟩
      exact ⟨reason, ⟨rfl, rfl⟩, given⟩
    · rintro ⟨_, ⟨rfl, rfl⟩, given⟩
      exact ⟨rfl, given⟩
  | _ => simp [Problem.Arises]

/-- An operation that asks nothing of the panel has no problem. -/
theorem not_arises {op : Op} (h : op.operation? = none) : ¬p.Arises op c := by
  cases p <;> simp [Problem.Arises, h]

/-- A move fails if and only if there is a problem with it. -/
theorem answer_move_eq_error_iff {m : Move} : (c.move m).answer = .error p ↔ p.Arises (.move m) c := by
  rw [arises_iff m.operation rfl, ← movePanel_eq_error_iff]
  cases m with
  | setup mount dock =>
    -- The panel can always be set up, so the live environment is all that can be in the way.
    have free : (c.movePanel (.setup mount dock)).1 ≠ .error p := by
      intro refused
      cases refused
    by_cases live : c.settings.liveEnvironment = true
    · rw [move_setup_of_live live]
      simp [free, live, Move.operation, eq_comm]
    · have answer : (c.move (.setup mount dock)).answer ≠ .error p := by
        simp only [move, live, Bool.false_eq_true, if_false]
        intro refused
        cases refused
      simp [free, live, answer]
  | reset => simp [move, reset, movePanel, Panel.step, Move.operation]
  | openPanel | closePanel | enterFullscreen | exitFullscreen newDock | remove => simp [move, Move.operation]

/-- A setup for a rectangle has the answer of one for an edge, and leaves the same in the log of the host. -/
theorem setupPinned_as_setup (mount : Mount) (corner size : Point) (c : Console) :
    (c.setupPinned mount corner size).answer = (c.move (.setup mount .usual)).answer ∧
      (c.setupPinned mount corner size).log = (c.move (.setup mount .usual)).log := by
  simp only [setupPinned]
  split <;> exact ⟨rfl, rfl⟩

/-- What comes of a move fails as the move does. -/
theorem answer_ofMove_eq_error_iff {o : Outcome Console (Except Problem Transition)} :
    (ofMove o).answer = .error p ↔ o.answer = .error p := by
  unfold ofMove
  cases o.answer <;> simp [Except.map]

/-- An operation fails with a problem if and only if the problem arises. -/
theorem answer_eq_error_iff {op : Op} : (c.perform op).answer = .error p ↔ p.Arises op c := by
  cases op with
  | move m => exact answer_ofMove_eq_error_iff.trans answer_move_eq_error_iff
  | setupPinned mount corner size =>
    have same : p.Arises (.setupPinned mount corner size) c ↔ p.Arises (.move (.setup mount .usual)) c := by
      rw [arises_iff .setup rfl, arises_iff .setup rfl]
    rw [same, ← answer_move_eq_error_iff, ← (setupPinned_as_setup mount corner size c).1]
    exact answer_ofMove_eq_error_iff
  | _ =>
    refine iff_of_false ?_ (not_arises rfl)
    intro failed
    cases failed

/-- A move that fails leaves nothing in the log of the host. -/
theorem log_move_of_error {m : Move} (h : (c.move m).answer = .error p) : (c.move m).log = [] := by
  cases m with
  | setup mount dock =>
    by_cases live : c.settings.liveEnvironment = true
    · rw [move_setup_of_live live]
    · simp only [move, live, Bool.false_eq_true, if_false] at h
      cases h
  | enterFullscreen =>
    have failed : (c.movePanel .enterFullscreen).1 = .error p := h
    simp [move, failed, Except.isOk, Except.toBool]
  | _ => rfl

theorem log_of_error {op : Op} (h : (c.perform op).answer = .error p) : (c.perform op).log = [] := by
  cases op with
  | move m => exact log_move_of_error (answer_ofMove_eq_error_iff.1 h)
  | setupPinned mount corner size =>
    obtain ⟨answer, log⟩ := setupPinned_as_setup mount corner size c
    have failed : (c.setupPinned mount corner size).answer = .error p := answer_ofMove_eq_error_iff.1 h
    rw [answer] at failed
    exact log.trans (log_move_of_error failed)
  | _ => cases h

/-- The right problem is the answer to an operation, and an operation with no problem succeeds. A setup is refused in a live environment.
Every other operation on the panel but the reset is refused by a console that is not set up. One that is set up refuses to be closed when
it is embedded, and to be opened when it is not closed, to be closed when it is closed, to enter fullscreen when it is not opened, and to
leave it when it is not in fullscreen. There is nothing else that fails. What fails leaves the whole console as it was, with its panel,
its settings, its lines and its queues, and leaves nothing in the log of the host. -/
theorem perform_fails_iff (op : Op) (c : Console) :
    (∀ p : Problem, (c.perform op).answer = .error p ↔ p.Arises op c) ∧
      ((∃ t, (c.perform op).answer = .ok t) ↔ ∀ p : Problem, ¬p.Arises op c) ∧
      ∀ p : Problem, p.Arises op c → c.perform op = { answer := .error p, state := c, log := [] } := by
  refine ⟨fun p => answer_eq_error_iff, ?_, ?_⟩
  · simp only [← answer_eq_error_iff]
    cases (c.perform op).answer <;> simp
  · intro p arises
    have failed : (c.perform op).answer = .error p := answer_eq_error_iff.2 arises
    have state := state_of_error failed
    have log := log_of_error failed
    generalize c.perform op = o at failed state log ⊢
    obtain ⟨answer, after, entries⟩ := o
    cases failed
    cases state
    cases log
    rfl

/-- In a live environment an embedded console is not set up again, and it is not closed either but for another reason. -/
example :
    let c : Console := { panel := .embedded true, settings := { liveEnvironment := true } }
    (c.perform (.move (.setup .popover .top))).answer = .error .liveEnvironment ∧
      (c.perform (.move .closePanel)).answer = .error (.refused .closePanel .notForEmbedded) :=
  ⟨rfl, rfl⟩

end Console

end DebugConsole
