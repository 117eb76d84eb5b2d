/-!
# The panel

The panel of a console is detached from its host, docked to an edge or embedded into a view of the host. `Panel.step` says which
moves are possible where and what they lead to; a move that is not possible has a reason.

Where the panel is docked is part of its state, so that it returns to the same edge from fullscreen. The states that make no sense,
such as an open panel that was never set up, cannot be written down.
-/

namespace DebugConsole

/-- What is on display. -/
inductive Display
  | closed | opened | fullscreen | embedded
deriving DecidableEq, Repr, Inhabited

/-- The edge of the screen to which a panel is docked. -/
inductive Dock
  | top | bottom | left | right
  /-- The edge that is usual on the platform, the bottom. -/
  | usual
deriving DecidableEq, Repr, Inhabited

/-- How a console is attached to its host. -/
inductive Mount
  /-- A docked panel. -/
  | popover
  /-- A docked panel with an input field. -/
  | textPopover
  /-- A part of a view of the host. -/
  | view
  /-- A part of a view of the host, with an input field. -/
  | textView
deriving DecidableEq, Repr, Inhabited

/-- What may be asked of a panel. -/
inductive Operation
  | setup | openPanel | closePanel | enterFullscreen | exitFullscreen | reset | remove
deriving DecidableEq, Repr

namespace Display

def name : Display → String
  | closed => "closed"
  | opened => "open"
  | fullscreen => "fullscreen"
  | embedded => "embedded"

/-- Whether a panel is displayed over the host, docked or in fullscreen. -/
def isOverlay : Display → Bool
  | opened | fullscreen => true
  | closed | embedded => false

end Display

namespace Dock

def name : Dock → String
  | top => "top"
  | bottom => "bottom"
  | left => "left"
  | right => "right"
  | usual => "default"

/-- The edge that is used. -/
def edge : Dock → Dock
  | usual => bottom
  | dock => dock

/-- Whether the edge is one of the two at the sides. -/
def isSide (dock : Dock) : Bool :=
  match dock.edge with
  | left | right => true
  | _ => false

end Dock

namespace Mount

/-- The mount as the log of the host calls it. -/
def label : Mount → String
  | popover => "Popover"
  | textPopover => "TextPopover"
  | view => "View"
  | textView => "TextView"

def isEmbedded : Mount → Bool
  | view | textView => true
  | popover | textPopover => false

def hasTextField : Mount → Bool
  | textPopover | textView => true
  | popover | view => false

end Mount

namespace Operation

def name : Operation → String
  | setup => "set up"
  | openPanel => "open"
  | closePanel => "close"
  | enterFullscreen => "enter fullscreen"
  | exitFullscreen => "exit fullscreen"
  | reset => "reset"
  | remove => "remove"

end Operation

/-- How much of a docked panel is shown. -/
inductive Extent
  | hidden | docked | full
deriving DecidableEq, Repr

/-- The panel of a console. -/
inductive Panel
  /-- Not set up. The dock is the one of the setup that was removed last. -/
  | detached (dock : Dock)
  /-- Set up as a popover. -/
  | popover (textField : Bool) (dock : Dock) (extent : Extent)
  /-- Set up inside a view of the host. -/
  | embedded (textField : Bool)
deriving DecidableEq, Repr

/-- Something that is asked of a panel, with all it needs to know. -/
inductive Move
  | setup (mount : Mount) (dock : Dock)
  | openPanel
  | closePanel
  | enterFullscreen
  /-- Back to the dock named, or to the one before fullscreen. -/
  | exitFullscreen (newDock : Option Dock)
  | reset
  | remove
deriving DecidableEq, Repr

def Move.operation : Move → Operation
  | .setup _ _ => .setup
  | .openPanel => .openPanel
  | .closePanel => .closePanel
  | .enterFullscreen => .enterFullscreen
  | .exitFullscreen _ => .exitFullscreen
  | .reset => .reset
  | .remove => .remove

/-- Why a panel cannot make a move. -/
inductive Refusal
  /-- The panel is not set up. -/
  | setupRequired
  /-- An embedded panel is removed, not closed. -/
  | notForEmbedded
  /-- The move does not start from what is on display. -/
  | wrongDisplay (display : Display)
deriving DecidableEq, Repr

/-- A move that was made. -/
structure Transition where
  /-- What was on display before. -/
  source : Display
  operation : Operation
  /-- The dock afterwards. -/
  dock : Dock
  /-- What is on display afterwards. -/
  target : Display
deriving DecidableEq, Repr

namespace Extent

def display : Extent → Display
  | hidden => .closed
  | docked => .opened
  | full => .fullscreen

end Extent

namespace Panel

/-- A panel that was never set up. -/
def initial : Panel := detached .usual

instance : Inhabited Panel := ⟨initial⟩

def display : Panel → Display
  | detached _ => .closed
  | popover _ _ extent => extent.display
  | embedded _ => .embedded

def dock : Panel → Dock
  | detached dock => dock
  | popover _ dock _ => dock
  | embedded _ => .usual

/-- How the panel is attached to its host, if it is set up. -/
def mount? : Panel → Option Mount
  | detached _ => none
  | popover textField _ _ => some (if textField then .textPopover else .popover)
  | embedded textField => some (if textField then .textView else .view)

/-- Whether the panel is set up. -/
def isReady (p : Panel) : Bool :=
  p.mount?.isSome

/-- Whether anything of the panel can be seen. -/
def isDisplayed (p : Panel) : Bool :=
  p.display != .closed

/-- The panel right after a setup. Embedded panels have no edge to choose. -/
def mounted (mount : Mount) (dock : Dock) : Panel :=
  if mount.isEmbedded then embedded mount.hasTextField else popover mount.hasTextField dock .hidden

/-- The panel after a move, or the reason why it cannot make it. -/
def step (p : Panel) : Move → Except Refusal Panel
  | .setup mount dock => .ok (mounted mount dock)
  | .reset => .ok initial
  | .remove =>
    match p with
    | detached _ => .error .setupRequired
    | _ => .ok (detached p.dock)
  | .openPanel =>
    match p with
    | detached _ => .error .setupRequired
    | popover textField dock .hidden => .ok (popover textField dock .docked)
    | _ => .error (.wrongDisplay p.display)
  | .closePanel =>
    match p with
    | detached _ => .error .setupRequired
    | embedded _ => .error .notForEmbedded
    | popover _ _ .hidden => .error (.wrongDisplay .closed)
    | popover textField dock _ => .ok (popover textField dock .hidden)
  | .enterFullscreen =>
    match p with
    | detached _ => .error .setupRequired
    | popover textField dock .docked => .ok (popover textField dock .full)
    | _ => .error (.wrongDisplay p.display)
  | .exitFullscreen newDock =>
    match p with
    | detached _ => .error .setupRequired
    | popover textField dock .full => .ok (popover textField (newDock.getD dock) .docked)
    | _ => .error (.wrongDisplay p.display)

/-- What a move that led from one panel to another amounts to. -/
def transition (p : Panel) (operation : Operation) (q : Panel) : Transition :=
  ⟨p.display, operation, q.dock, q.display⟩

@[simp]
theorem isReady_detached (dock : Dock) : (detached dock).isReady = false := rfl

@[simp]
theorem isReady_popover (textField : Bool) (dock : Dock) (extent : Extent) :
    (popover textField dock extent).isReady = true := rfl

@[simp]
theorem isReady_embedded (textField : Bool) : (embedded textField).isReady = true := rfl

/-- A panel that is not set up is detached. -/
theorem exists_detached {p : Panel} (h : p.isReady = false) : ∃ dock, p = detached dock := by
  cases p with
  | detached dock => exact ⟨dock, rfl⟩
  | popover textField dock extent => cases h
  | embedded textField => cases h

end Panel

end DebugConsole
