import DebugConsole.Panel

/-!
# What can be read off a panel

Three values can be read off a panel: what is on display, where it is docked and how it is mounted. To a host that keeps these three,
each in a place of its own, a move is a few writes: a setup writes all of them whatever they were, a removal forgets the mount and leaves
the dock. `Readout.step` is the moves in this view. It makes sense for any three values, also for those that no panel has.

`Readout.Coherent` says which values belong together, and these are exactly the values of panels (`coherent_iff`). A move of a panel and
the writes that stand for it come to the same (`step_readout`), so no move leads out of the coherent values (`Coherent.step`), and
`readout_coherent` follows for every sequence of moves.
-/

namespace DebugConsole

/-- What is on display, where it is docked and how it is mounted, each kept by itself. -/
structure Readout where
  display : Display := .closed
  dock : Dock := .usual
  mount? : Option Mount := none
deriving DecidableEq, Repr

namespace Readout

/-- Puts something else on display, and records that with the dock that is in force by then. -/
def turn (r : Readout) (operation : Operation) (target : Display) : Transition × Readout :=
  (⟨r.display, operation, r.dock, target⟩, { r with display := target })

/-- A move as writes to the three values, or the reason why it is not made. -/
def step (r : Readout) (m : Move) : Except Refusal (Transition × Readout) :=
  match m with
  | .setup mount dock =>
    let mounted := { r with mount? := some mount }
    if mount.isEmbedded then .ok ({ mounted with dock := .usual }.turn .setup .embedded)
    else .ok ({ mounted with dock }.turn .setup .closed)
  | .reset => .ok ({ r with mount? := none, dock := .usual }.turn .reset .closed)
  | m =>
    if r.mount? = none then .error .setupRequired
    else
      match m, r.display with
      | .remove, _ => .ok ({ r with mount? := none }.turn .remove .closed)
      | .openPanel, .closed => .ok (r.turn .openPanel .opened)
      | .closePanel, .opened | .closePanel, .fullscreen => .ok (r.turn .closePanel .closed)
      | .closePanel, .embedded => .error .notForEmbedded
      | .enterFullscreen, .opened => .ok (r.turn .enterFullscreen .fullscreen)
      | .exitFullscreen newDock, .fullscreen =>
        .ok ({ r with dock := newDock.getD r.dock }.turn .exitFullscreen .opened)
      | _, display => .error (.wrongDisplay display)

/-- The values after a move, which are the old ones if it is refused. -/
def after (r : Readout) (m : Move) : Readout :=
  match r.step m with
  | .ok (_, next) => next
  | .error _ => r

/-- The values after some moves, the first one first. -/
def run (r : Readout) (moves : List Move) : Readout :=
  moves.foldl after r

/-- The values belong together. -/
structure Coherent (r : Readout) : Prop where
  /-- What is not mounted is not displayed. -/
  closed : r.mount? = none → r.display = .closed
  /-- What is mounted inside a view of the host shows so, and nothing else does. -/
  embedded : r.display = .embedded ↔ ∃ mount, r.mount? = some mount ∧ mount.isEmbedded = true
  /-- What is displayed over the host is mounted as a popover. -/
  overlay : r.display = .opened ∨ r.display = .fullscreen → ∃ mount, r.mount? = some mount ∧ mount.isEmbedded = false
  /-- Inside a view of the host there is no edge to choose. -/
  dock : r.display = .embedded → r.dock = .usual

/-- The record of a move tells what was on display before it, and what is on display and where it is docked after it. -/
theorem record_eq {r next : Readout} {m : Move} {t : Transition} (h : r.step m = .ok (t, next)) :
    t = ⟨r.display, m.operation, next.dock, next.display⟩ := by
  unfold step at h
  split at h
  · split at h <;> cases h <;> rfl
  · cases h
    rfl
  · split at h
    · cases h
    · split at h <;> cases h <;> rfl

end Readout

namespace Panel

/-- The panel after a move, which stays as it is if it cannot make it. -/
def after (p : Panel) (m : Move) : Panel :=
  match p.step m with
  | .ok q => q
  | .error _ => p

/-- The panel after some moves, the first one first. -/
def run (p : Panel) (moves : List Move) : Panel :=
  moves.foldl after p

/-- The values that are read off a panel. -/
def readout (p : Panel) : Readout :=
  ⟨p.display, p.dock, p.mount?⟩

/-- What is read off a panel belongs together. -/
theorem coherent_readout (p : Panel) : p.readout.Coherent := by
  constructor <;> rcases p with _ | ⟨_ | _, _, _ | _ | _⟩ | _ | _ <;>
    simp [readout, display, Extent.display, mount?, dock, Mount.isEmbedded]

/-- A move of a panel comes to the writes that stand for it, and is refused for the same reason. -/
theorem step_readout (p : Panel) (m : Move) :
    p.readout.step m = (p.step m).map fun q => (p.transition m.operation q, q.readout) := by
  cases m with
  | setup mount dock => cases mount <;> rfl
  | _ => rcases p with _ | ⟨_ | _, _, _ | _ | _⟩ | _ | _ <;> rfl

theorem after_readout (p : Panel) (m : Move) : p.readout.after m = (p.after m).readout := by
  unfold Readout.after after
  rw [step_readout]
  cases p.step m <;> rfl

/-- Panels and the values read off them go the same way through any moves. -/
theorem run_readout (p : Panel) (moves : List Move) : p.readout.run moves = (p.run moves).readout := by
  induction moves generalizing p with
  | nil => rfl
  | cons m moves ih =>
    show (p.readout.after m).run moves = ((p.after m).run moves).readout
    rw [after_readout, ih]

end Panel

namespace Readout

/-- Values that belong together are those of a panel. -/
theorem Coherent.exists_panel {r : Readout} (h : r.Coherent) : ∃ p : Panel, p.readout = r := by
  obtain ⟨display, dock, mount?⟩ := r
  cases mount? with
  | none =>
    obtain rfl : display = .closed := h.closed rfl
    exact ⟨.detached dock, rfl⟩
  | some mount =>
    by_cases embedded : mount.isEmbedded = true
    · obtain rfl : display = .embedded := h.embedded.2 ⟨mount, rfl, embedded⟩
      obtain rfl : dock = .usual := h.dock rfl
      refine ⟨.embedded mount.hasTextField, ?_⟩
      cases mount <;> first | rfl | cases embedded
    · have apart : display ≠ .embedded := by
        intro shown
        obtain ⟨other, same, isEmbedded⟩ := h.embedded.1 shown
        cases same
        exact embedded isEmbedded
      have popover : ∀ extent : Extent,
          (Panel.popover mount.hasTextField dock extent).readout = ⟨extent.display, dock, some mount⟩ := by
        intro extent
        cases mount <;> first | rfl | exact absurd rfl embedded
      cases display with
      | closed => exact ⟨_, popover .hidden⟩
      | opened => exact ⟨_, popover .docked⟩
      | fullscreen => exact ⟨_, popover .full⟩
      | embedded => exact absurd rfl apart

/-- Panels are the values that belong together, no more and no fewer. -/
theorem coherent_iff {r : Readout} : r.Coherent ↔ ∃ p : Panel, p.readout = r := by
  constructor
  · exact Coherent.exists_panel
  · rintro ⟨p, rfl⟩
    exact p.coherent_readout

/-- No move leads from values that belong together to others. -/
theorem Coherent.step {r next : Readout} {m : Move} {t : Transition} (h : r.Coherent) (made : r.step m = .ok (t, next)) :
    next.Coherent := by
  obtain ⟨p, rfl⟩ := h.exists_panel
  rw [Panel.step_readout] at made
  cases hp : p.step m with
  | error reason =>
    rw [hp] at made
    cases made
  | ok q =>
    rw [hp] at made
    cases made
    exact q.coherent_readout

theorem Coherent.after {r : Readout} (h : r.Coherent) (m : Move) : (r.after m).Coherent := by
  unfold Readout.after
  split
  · rename_i made
    exact h.step made
  · exact h

/-- Values that belong together do so after any moves. -/
theorem Coherent.run {r : Readout} (h : r.Coherent) (moves : List Move) : (r.run moves).Coherent := by
  induction moves generalizing r with
  | nil => exact h
  | cons m moves ih => exact ih (h.after m)

/-- After any sequence of moves, made or refused, from a panel that was never set up, the three values belong together and are those
of the panel. The next move is made or refused by the one as by the other, with the same record of it, which tells what was on display
before, and what is on display and where it is docked afterwards. -/
theorem readout_coherent (moves : List Move) :
    let r := ({} : Readout).run moves
    let p := Panel.initial.run moves
    r.Coherent ∧ p.readout = r ∧
      (∀ m, r.step m = (p.step m).map fun q => (p.transition m.operation q, q.readout)) ∧
      ∀ m t next, r.step m = .ok (t, next) → t = ⟨r.display, m.operation, next.dock, next.display⟩ := by
  have start : ({} : Readout).Coherent := Panel.initial.coherent_readout
  have same : ({} : Readout).run moves = (Panel.initial.run moves).readout := Panel.initial.run_readout moves
  refine ⟨start.run moves, same.symm, ?_, fun m t next made => record_eq made⟩
  intro m
  rw [same]
  exact (Panel.initial.run moves).step_readout m

end Readout

end DebugConsole
