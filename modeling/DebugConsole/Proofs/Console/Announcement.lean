import DebugConsole.Proofs.Console.Life
import DebugConsole.Proofs.Console.Operation
import Mathlib.Data.List.Chain

/-!
# The lifecycle events of a console

A host that hears nothing of a panel but its lifecycle events can tell what is on display: the events move it from one `Phase` to
the next, and `Phase.follow?` is where a list of them leads, if every event is possible in the phase that it meets.

`lifecycle_replica` says that this always works. Whatever happens to a console, the events that it has told its host, with those
that wait in its queue, are possible one after the other and lead to the phase of its panel. The invariant is `Announces`, between
a console and what becomes of it: what an operation adds to the queue leads from the one phase to the other.
-/

namespace DebugConsole

/-- What a host knows of a panel from its lifecycle events. -/
inductive Phase
  /-- Not set up. -/
  | unset
  /-- Set up, and not displayed over the host. -/
  | idle
  | opened
  | full
deriving DecidableEq, Repr

namespace Phase

/-- The phase after an event, if the event is possible. -/
def step? : Phase → Lifecycle → Option Phase
  | .unset, .ready => some .idle
  | .idle, .opened => some .opened
  | .opened, .closed | .full, .closed => some .idle
  | .opened, .fullscreenEntered => some .full
  | .full, .fullscreenExited _ => some .opened
  | .idle, .removed => some .unset
  | .unset, .reset | .idle, .reset => some .unset
  | _, _ => none

/-- The phase after some events, if each of them is possible in the phase that it meets. -/
def follow? (p : Phase) : List Lifecycle → Option Phase
  | [] => some p
  | e :: es => (p.step? e).bind fun q => q.follow? es

@[simp]
theorem follow?_nil (p : Phase) : p.follow? [] = some p := rfl

@[simp]
theorem follow?_cons (p : Phase) (e : Lifecycle) (es : List Lifecycle) :
    p.follow? (e :: es) = (p.step? e).bind fun q => q.follow? es := rfl

theorem follow?_append (p : Phase) (es fs : List Lifecycle) :
    p.follow? (es ++ fs) = (p.follow? es).bind fun q => q.follow? fs := by
  induction es generalizing p with
  | nil => rfl
  | cons e es ih =>
    rw [List.cons_append, follow?_cons, follow?_cons, Option.bind_assoc]
    congr 1
    funext q
    exact ih q

/-! ## Opening and closing -/

/-- The event by which a panel was opened or closed last, where a panel counts as closed at its start. -/
def lastEdge : Phase → Lifecycle
  | .unset | .idle => .closed
  | .opened | .full => .opened

end Phase

/-- Whether a panel appears or disappears with an event. -/
def Lifecycle.isEdge : Lifecycle → Bool
  | .opened | .closed => true
  | _ => false

namespace Phase

/-- A possible event opens a panel that is closed, closes one that is open, or leaves it as it is. -/
theorem lastEdge_step {p q : Phase} {e : Lifecycle} (h : p.step? e = some q) :
    if e.isEdge then e = q.lastEdge ∧ p.lastEdge ≠ e else q.lastEdge = p.lastEdge := by
  cases p <;> cases e <;> simp [step?] at h <;> subst h <;> simp [Lifecycle.isEdge, lastEdge]

/-- Events that are possible one after the other open and close a panel in turns. -/
theorem isChain_edges {p q : Phase} {es : List Lifecycle} (h : p.follow? es = some q) :
    List.IsChain (· ≠ ·) (p.lastEdge :: es.filter Lifecycle.isEdge) := by
  induction es generalizing p with
  | nil => simp
  | cons e es ih =>
    obtain ⟨r, hr, hq⟩ := Option.bind_eq_some_iff.1 h
    have edge := lastEdge_step hr
    have rest := ih hq
    by_cases he : e.isEdge = true
    · rw [if_pos he] at edge
      rw [List.filter_cons_of_pos he, List.isChain_cons_cons]
      exact ⟨edge.2, edge.1 ▸ rest⟩
    · rw [if_neg he] at edge
      rw [List.filter_cons_of_neg he, ← edge]
      exact rest

/-- The last event that opened or closed a panel tells whether it is open. -/
theorem getLast?_edges {p q : Phase} {es : List Lifecycle} (h : p.follow? es = some q) :
    (es.filter Lifecycle.isEdge).getLast?.getD p.lastEdge = q.lastEdge := by
  induction es generalizing p with
  | nil =>
    cases h
    rfl
  | cons e es ih =>
    obtain ⟨r, hr, hq⟩ := Option.bind_eq_some_iff.1 h
    have edge := lastEdge_step hr
    have rest := ih hq
    by_cases he : e.isEdge = true
    · rw [if_pos he] at edge
      rw [List.filter_cons_of_pos he, List.getLast?_cons, Option.getD_some, edge.1]
      exact rest
    · rw [if_neg he] at edge
      rw [List.filter_cons_of_neg he, ← edge]
      exact rest

/-- A panel that is reset or removed was never opened, or was closed since. -/
theorem closed_before {q : Phase} {before after : List Lifecycle} {e : Lifecycle} (he : e = .reset ∨ e = .removed)
    (h : Phase.unset.follow? (before ++ e :: after) = some q) :
    (before.filter Lifecycle.isEdge).getLast? ≠ some .opened := by
  rw [follow?_append] at h
  obtain ⟨r, hr, h⟩ := Option.bind_eq_some_iff.1 h
  obtain ⟨_, hs, -⟩ := Option.bind_eq_some_iff.1 h
  have closed : r.lastEdge = .closed := by
    rcases he with rfl | rfl <;> cases r <;> first | rfl | simp [step?] at hs
  intro opened
  have last := getLast?_edges hr
  rw [opened, closed] at last
  cases last

end Phase

/-! ## Panels -/

/-- The phase of a panel. -/
def Panel.phase : Panel → Phase
  | .detached _ => .unset
  | .popover _ _ .hidden | .embedded _ => .idle
  | .popover _ _ .docked => .opened
  | .popover _ _ .full => .full

namespace Panel

theorem phase_eq_unset_iff (p : Panel) : p.phase = .unset ↔ p.isReady = false := by
  rcases p with _ | ⟨_, _, _ | _ | _⟩ | _ <;> simp [phase]

theorem phase_eq_idle_iff (p : Panel) :
    p.phase = .idle ↔ p.isReady = true ∧ (p.display = .closed ∨ p.display = .embedded) := by
  rcases p with _ | ⟨_, _, _ | _ | _⟩ | _ <;> simp [phase, display, Extent.display]

theorem phase_eq_opened_iff (p : Panel) : p.phase = .opened ↔ p.display = .opened := by
  rcases p with _ | ⟨_, _, _ | _ | _⟩ | _ <;> simp [phase, display, Extent.display]

theorem phase_eq_full_iff (p : Panel) : p.phase = .full ↔ p.display = .fullscreen := by
  rcases p with _ | ⟨_, _, _ | _ | _⟩ | _ <;> simp [phase, display, Extent.display]

/-- The phase right after a setup. -/
theorem phase_mounted (mount : Mount) (dock : Dock) : (mounted mount dock).phase = .idle := by
  cases mount <;> rfl

/-- The events that announce a move lead from the phase before it to the phase after it, if a setup starts from a panel that is not
set up. -/
theorem follow?_announcing {p q : Panel} {m : Move} (h : p.step m = .ok q)
    (detached : ∀ mount dock, m = .setup mount dock → p.isReady = false) :
    p.phase.follow? (Lifecycle.announcing (p.transition m.operation q)) = some q.phase := by
  cases m with
  | setup mount dock =>
    cases h
    rw [(phase_eq_unset_iff p).2 (detached mount dock rfl), phase_mounted]
    rfl
  | _ =>
    rcases p with _ | ⟨_, _, _ | _ | _⟩ | _ <;> cases h <;> rfl

end Panel

/-! ## Consoles -/

namespace Console

/-- What a console adds to its queue of events until it has become another one leads from the phase of the one to that of the
other. -/
def Announces (c d : Console) : Prop :=
  ∃ events, d.queue.lifecycle = c.queue.lifecycle ++ events ∧ c.panel.phase.follow? events = some d.panel.phase

/-- Whatever leaves the panel and the queue of events alone announces nothing. -/
theorem Announces.of_eq {c d : Console} (hp : d.panel = c.panel) (hq : d.queue.lifecycle = c.queue.lifecycle) :
    c.Announces d :=
  ⟨[], by rw [hq, List.append_nil], by rw [hp, Phase.follow?_nil]⟩

theorem Announces.trans {c d e : Console} (h : c.Announces d) (h' : d.Announces e) : c.Announces e := by
  obtain ⟨events, hq, hp⟩ := h
  obtain ⟨events', hq', hp'⟩ := h'
  refine ⟨events ++ events', by rw [hq', hq, List.append_assoc], ?_⟩
  rw [Phase.follow?_append, hp, Option.bind_some, hp']

/-- A move of the panel is announced. -/
theorem announces_movePanel (m : Move) (c : Console)
    (detached : ∀ mount dock, m = .setup mount dock → c.panel.isReady = false) : c.Announces (c.movePanel m).2 := by
  unfold movePanel
  split
  · exact .of_eq rfl rfl
  · rename_i p h
    exact ⟨_, rfl, Panel.follow?_announcing h detached⟩

/-- A reset clears the lines and keeps what the host was not told yet of the panel. -/
theorem announces_reset (c : Console) : c.Announces c.reset.2 := by
  have cleared : c.Announces ({ c with settings := c.settings.reset }).clear := .of_eq rfl rfl
  exact cleared.trans (announces_movePanel .reset _ nofun)

/-- Every move is announced. A setup of a console that is set up already announces the reset first. -/
theorem announces_move (m : Move) (c : Console) : c.Announces (c.move m).state := by
  apply move_induction (P := c.Announces) m (.of_eq rfl rfl) (announces_reset c)
  intro d m detached before
  exact before.trans (announces_movePanel m d detached)

/-- Every operation announces what it does to the panel, and no other event. -/
theorem announces_perform (op : Op) (c : Console) : c.Announces (c.perform op).state := by
  cases op with
  | move m => exact announces_move m c
  | setupPinned mount corner size =>
    obtain ⟨settings, pinned⟩ := state_setupPinned mount corner size c
    rw [pinned]
    exact (announces_move (.setup mount .usual) c).trans (.of_eq rfl rfl)
  | print destination line => cases destination <;> exact .of_eq rfl rfl
  | _ => exact .of_eq rfl rfl

namespace Life

/-- All lifecycle events of a console: those that its host was told, and those that wait in its queue. -/
def lifecycle (life : Life) : List Lifecycle :=
  life.told.flatMap Delivery.lifecycle ++ life.console.queue.lifecycle

/-- What a console announces prolongs its events. -/
theorem lifecycle_of_announces {life : Life} {d : Console} {k : Ledger} (h : life.console.Announces d)
    (before : Phase.unset.follow? life.lifecycle = some life.console.panel.phase) :
    Phase.unset.follow? { life with console := d, ledger := k : Life }.lifecycle = some d.panel.phase := by
  obtain ⟨events, hq, hp⟩ := h
  unfold lifecycle at before ⊢
  rw [hq, ← List.append_assoc, Phase.follow?_append, before, Option.bind_some, hp]

/-- In every life the events lead to the phase of the panel. -/
theorem follow?_lifecycle (settings : Settings) (steps : List Step) :
    Phase.unset.follow? ((start settings).run steps).lifecycle =
      some ((start settings).run steps).console.panel.phase := by
  apply run_induction (P := fun life => Phase.unset.follow? life.lifecycle = some life.console.panel.phase)
  · intro life op h
    exact lifecycle_of_announces (announces_perform op life.console) h
  · intro life settings h
    have same : life.after (.configure settings) =
        { life with console := life.console.withSettings settings, ledger := life.ledger } := by
      simp only [after, take, Step.ops, Ledger.noteAll, List.append_nil]
    rw [same]
    exact lifecycle_of_announces (.of_eq rfl rfl) h
  · intro life h
    -- What was queued is told now, so all events together stay the same.
    have same : (life.after .drain).lifecycle = life.lifecycle := by
      simp [lifecycle, after, take, drain]
    rw [same]
    exact h
  · rfl

/-- The events that a console tells its host are a replica of its panel. Through any life each event is possible in the phase that
it meets, and the phase at the end is that of the panel. So a console is opened and closed in turns, from an opening on, and it is
closed before it is reset or removed. -/
theorem lifecycle_replica (settings : Settings) (steps : List Step) :
    let life := (start settings).run steps
    let panel := life.console.panel
    (∃ phase, Phase.unset.follow? life.lifecycle = some phase ∧ (phase = .unset ↔ panel.isReady = false) ∧
      (phase = .idle ↔ panel.isReady = true ∧ (panel.display = .closed ∨ panel.display = .embedded)) ∧
      (phase = .opened ↔ panel.display = .opened) ∧ (phase = .full ↔ panel.display = .fullscreen)) ∧
    List.IsChain (· ≠ ·) (Lifecycle.closed :: life.lifecycle.filter Lifecycle.isEdge) ∧
    ∀ before after e, life.lifecycle = before ++ e :: after → e = .reset ∨ e = .removed →
      (before.filter Lifecycle.isEdge).getLast? ≠ some .opened := by
  have follows := follow?_lifecycle settings steps
  refine ⟨⟨_, follows, Panel.phase_eq_unset_iff _, Panel.phase_eq_idle_iff _, Panel.phase_eq_opened_iff _,
    Panel.phase_eq_full_iff _⟩, Phase.isChain_edges follows, ?_⟩
  intro before after e split he
  rw [split] at follows
  exact Phase.closed_before he follows

end Life

end Console

end DebugConsole
