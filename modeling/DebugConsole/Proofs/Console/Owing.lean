import DebugConsole.Proofs.Command.Simulation
import DebugConsole.Proofs.Console.Mirror

/-!
# What a console owes its host

Draining the queue of a console or not makes no difference to what it does next. `Console.owing` puts a delivery back in front of the
queue, as if it had not been told yet, and is a simulation: every operation, and with it every line, goes the same way before and
after it (`simulates_owing`).

`Delivery.followedBy` makes one delivery of two, such that a client need not care which of both it receives.
-/

namespace DebugConsole

namespace Delivery

/-- A delivery and the next one as one. Lines that the next one would have a client forget are left out. -/
def followedBy (d e : Delivery) : Delivery where
  cleared := d.cleared || e.cleared
  outputs := if e.cleared then e.outputs else d.outputs ++ e.outputs
  lifecycle := d.lifecycle ++ e.lifecycle
  mail := d.mail ++ e.mail

/-- To a client it does not matter whether it receives two deliveries or the one that they amount to. -/
theorem applyTo_followedBy (d e : Delivery) (lines : List Line) :
    (d.followedBy e).applyTo lines = e.applyTo (d.applyTo lines) := by
  unfold applyTo followedBy
  cases he : e.cleared with
  | true => simp only [Bool.or_true, if_true]
  | false => simp only [Bool.or_false, Bool.false_eq_true, if_false, List.append_assoc]

theorem followedBy_assoc (d e f : Delivery) : (d.followedBy e).followedBy f = d.followedBy (e.followedBy f) := by
  unfold followedBy
  cases hf : f.cleared with
  | true => simp only [Bool.or_true, if_true, List.append_assoc]
  | false =>
    cases e.cleared <;> simp only [Bool.or_true, Bool.or_false, Bool.false_eq_true, if_true, if_false, List.append_assoc]

@[simp]
theorem followedBy_nothing (d : Delivery) : d.followedBy {} = d := by
  simp only [followedBy, Bool.or_false, Bool.false_eq_true, if_false, List.append_nil]

/-- What deliveries amount to. -/
def total (deliveries : List Delivery) : Delivery :=
  deliveries.foldr followedBy {}

@[simp]
theorem total_cons (d : Delivery) (deliveries : List Delivery) : total (d :: deliveries) = d.followedBy (total deliveries) := rfl

/-- A queue that a client never forgets holds in total what the deliveries hold one after the other. -/
theorem total_eq_flatMap {α : Type} (field : Delivery → List α) (nothing : field {} = [])
    (followed : ∀ d e, field (d.followedBy e) = field d ++ field e) (deliveries : List Delivery) :
    field (total deliveries) = deliveries.flatMap field := by
  induction deliveries with
  | nil => exact nothing
  | cons d deliveries ih => rw [total_cons, followed, ih, List.flatMap_cons]

theorem lifecycle_total (deliveries : List Delivery) : (total deliveries).lifecycle = deliveries.flatMap lifecycle :=
  total_eq_flatMap lifecycle rfl (fun _ _ => rfl) deliveries

theorem mail_total (deliveries : List Delivery) : (total deliveries).mail = deliveries.flatMap mail :=
  total_eq_flatMap mail rfl (fun _ _ => rfl) deliveries

/-- A client has the same lines after deliveries as after what they amount to. -/
theorem applyTo_total (deliveries : List Delivery) (lines : List Line) :
    (total deliveries).applyTo lines = deliveries.foldl (fun lines d => d.applyTo lines) lines := by
  induction deliveries generalizing lines with
  | nil => exact applyTo_nothing lines
  | cons d deliveries ih => rw [total_cons, applyTo_followedBy, ih, List.foldl_cons]

end Delivery

/-! ## A queue that was not told yet -/

namespace Console

/-- The console as it were if it had not told a delivery yet. -/
def owing (d : Delivery) (c : Console) : Console :=
  { c with queue := d.followedBy c.queue }

@[simp]
theorem panel_owing (d : Delivery) (c : Console) : (c.owing d).panel = c.panel := rfl

@[simp]
theorem settings_owing (d : Delivery) (c : Console) : (c.owing d).settings = c.settings := rfl

theorem append_owing (d : Delivery) (l : Line) (c : Console) : (c.owing d).append l = (c.append l).owing d := by
  unfold append owing Delivery.followedBy
  split
  · rfl
  · simp only [List.append_assoc]

theorem clear_owing (d : Delivery) (c : Console) : (c.owing d).clear = c.clear.owing d := by
  simp only [clear, owing, Delivery.followedBy, Bool.or_true, if_true]

theorem sendMail_owing (d : Delivery) (recipients : List String) (c : Console) :
    (c.owing d).sendMail recipients = (c.sendMail recipients).owing d := by
  unfold sendMail owing Delivery.followedBy
  rw [List.append_assoc]
  rfl

theorem moved_owing (d : Delivery) (t : Transition) (p : Panel) (c : Console) :
    (c.owing d).moved t p = (c.moved t p).owing d := by
  unfold moved owing Delivery.followedBy
  rw [List.append_assoc]

theorem movePanel_owing (d : Delivery) (m : Move) (c : Console) :
    (c.owing d).movePanel m = ((c.movePanel m).1, (c.movePanel m).2.owing d) := by
  unfold movePanel
  rw [panel_owing]
  cases c.panel.step m with
  | error reason => rfl
  | ok p => simp only [moved_owing]

theorem reset_owing (d : Delivery) (c : Console) : (c.owing d).reset = (c.reset.1, c.reset.2.owing d) := by
  have cleared : ({ c.owing d with settings := c.settings.reset } : Console).clear =
      ({ c with settings := c.settings.reset } : Console).clear.owing d :=
    clear_owing d { c with settings := c.settings.reset }
  unfold reset
  rw [← movePanel_owing, ← cleared]
  rfl

/-- A move does not depend on what was told already. -/
theorem move_owing (d : Delivery) (m : Move) (c : Console) : (c.owing d).move m = (c.move m).map (owing d) := by
  cases m with
  | setup mount dock =>
    by_cases live : c.settings.liveEnvironment = true
    · rw [move_setup_of_live live, move_setup_of_live (c := c.owing d) live]
      rfl
    · have first : (if (c.owing d).panel.isReady then (c.owing d).reset.2 else c.owing d) =
          (if c.panel.isReady then c.reset.2 else c).owing d := by
        rw [reset_owing, panel_owing]
        split <;> rfl
      simp only [move, settings_owing, live, first, movePanel_owing]
      rfl
  | reset =>
    simp only [move, reset_owing]
    rfl
  | enterFullscreen =>
    simp only [move, movePanel_owing, settings_owing]
    rfl
  | _ =>
    simp only [move, movePanel_owing]
    rfl

theorem setupPinned_owing (d : Delivery) (mount : Mount) (corner size : Point) (c : Console) :
    (c.owing d).setupPinned mount corner size = (c.setupPinned mount corner size).map (owing d) := by
  unfold setupPinned
  rw [move_owing]
  cases h : (c.move (.setup mount .usual)).answer with
  | error p => simp only [Outcome.map, h]
  | ok t =>
    simp only [Outcome.map, h]
    rfl

/-- An operation does not depend on what was told already. -/
theorem perform_owing (d : Delivery) (op : Op) (c : Console) :
    (c.owing d).perform op = (c.perform op).map (owing d) := by
  cases op with
  | move m =>
    simp only [perform, move_owing]
    rfl
  | setupPinned mount corner size =>
    simp only [perform, setupPinned_owing]
    rfl
  | print destination line =>
    cases destination with
    | hostOnly => rfl
    | console => exact congrArg (fun c => c.done []) (append_owing d line c)
    | both => exact congrArg (fun c => c.done [.ofLine line]) (append_owing d line c)
  | clear =>
    simp only [perform, clear_owing]
    rfl
  | sendMail recipients =>
    simp only [perform, sendMail_owing]
    rfl
  | _ => rfl

/-- To commands it makes no difference what was told already. -/
theorem simulates_owing (d : Delivery) : facade.Simulates facade (owing d) where
  canMail _ := rfl
  perform call c := by
    unfold facade
    simp only [perform_owing]
    rfl

end Console

end DebugConsole
