import DebugConsole.Panel

/-!
# Lifecycle events

What a console tells its host about its panel: one event for every move that was made.
-/

namespace DebugConsole

/-- A change of the panel that the host is told about. -/
inductive Lifecycle
  /-- The console was set up. -/
  | ready
  | opened
  | closed
  | fullscreenEntered
  | fullscreenExited (dock : Dock)
  /-- The console and its settings were reset. It has to be set up again. -/
  | reset
  /-- The console was detached from its host. -/
  | removed
deriving DecidableEq, Repr

namespace Lifecycle

/-- The event that announces a move. -/
def ofTransition (t : Transition) : Lifecycle :=
  match t.operation with
  | .setup => ready
  | .openPanel => opened
  | .closePanel => closed
  | .enterFullscreen => fullscreenEntered
  | .exitFullscreen => fullscreenExited t.dock
  | .reset => reset
  | .remove => removed

/-- The events that announce a move. A panel that disappears because it is reset or removed is announced as closed first. -/
def announcing (t : Transition) : List Lifecycle :=
  let closing := (t.operation = .reset ∨ t.operation = .remove) ∧ t.source.isOverlay = true
  (if closing then [closed] else []) ++ [ofTransition t]

/-- The event in words. -/
def describe : Lifecycle → String
  | ready => "ready"
  | opened => "opened"
  | closed => "closed"
  | fullscreenEntered => "fullscreen"
  | fullscreenExited dock => s!"docked {dock.name}"
  | reset => "reset"
  | removed => "removed"

end Lifecycle

end DebugConsole
