import DebugConsole.Color

/-!
# Settings

How the panel of a console looks and what it allows. There are sixteen settings, listed by `Settings.toList` in the order in which
they are written down; `Settings.ofList` takes the defaults for all that are not in a list.
-/

namespace DebugConsole

/-- A point of the screen, or the size of a rectangle on it. -/
structure Point where
  x : Single
  y : Single
deriving DecidableEq, Repr, Inhabited

/-- A color of the panel. -/
inductive ColorSlot
  | background | text | textField | warning | error | diagBackground | diagText
deriving DecidableEq, Repr

/-- A setting that is on or off. -/
inductive Flag
  /-- The colors of the diagnostic mode are drawn. -/
  | diagnosticMode
  /-- The panel can be dragged around. -/
  | moveEnabled
  /-- The button for fullscreen is shown. -/
  | fullscreenEnabled
  | gesturesEnabled
  | clearButtonEnabled
  /-- The console is never set up. -/
  | liveEnvironment
deriving DecidableEq, Repr

/-- A side of the panel that can be given a fixed length. -/
inductive Side
  | width | height
deriving DecidableEq, Repr

/-- One setting with a value. -/
inductive Setting
  | color (slot : ColorSlot) (value : Color)
  | flag (flag : Flag) (value : Bool)
  | length (side : Side) (value : Option Single)
  | position (value : Option Point)
deriving DecidableEq, Repr

/-- The settings of a console. -/
structure Settings where
  background : Color := ColorName.color .black
  text : Color := ColorName.color .green
  textField : Color := ColorName.color .white
  warning : Color := ColorName.color .yellow
  error : Color := ColorName.color .red
  diagBackground : Color := ColorName.color .lightGray
  diagText : Color := ColorName.color .black
  diagnosticMode : Bool := false
  /-- A fixed width of the panel, else the layout decides. -/
  width : Option Single := none
  /-- A fixed height of the panel, else the layout decides. -/
  height : Option Single := none
  /-- A fixed top left corner of the panel, else it is docked. -/
  position : Option Point := none
  moveEnabled : Bool := false
  fullscreenEnabled : Bool := true
  gesturesEnabled : Bool := true
  clearButtonEnabled : Bool := true
  liveEnvironment : Bool := false
deriving DecidableEq, Repr

namespace ColorSlot

def all : List ColorSlot :=
  [background, text, textField, warning, error, diagBackground, diagText]

/-- The name under which the color is written down. -/
def name : ColorSlot → String
  | background => "background_color"
  | text => "text_color"
  | textField => "text_field_color"
  | warning => "warning_color"
  | error => "error_color"
  | diagBackground => "diag_background_color"
  | diagText => "diag_text_color"

end ColorSlot

namespace Flag

def all : List Flag :=
  [diagnosticMode, moveEnabled, fullscreenEnabled, gesturesEnabled, clearButtonEnabled, liveEnvironment]

/-- The name under which the flag is written down. -/
def name : Flag → String
  | diagnosticMode => "diagnostic_mode"
  | moveEnabled => "move_enabled"
  | fullscreenEnabled => "fullscreen_enabled"
  | gesturesEnabled => "gestures_enabled"
  | clearButtonEnabled => "clear_button_enabled"
  | liveEnvironment => "live_environment"

end Flag

namespace Side

def all : List Side := [width, height]

/-- The name under which the length of the side is written down. -/
def name : Side → String
  | width => "width"
  | height => "height"

end Side

/-- The name under which a setting is written down. -/
def Setting.name : Setting → String
  | .color slot _ => slot.name
  | .flag f _ => f.name
  | .length side _ => side.name
  | .position _ => "position"

namespace Settings

instance : Inhabited Settings := ⟨{}⟩

/-- The settings with one of them changed. -/
def set (s : Settings) : Setting → Settings
  | .color .background value => { s with background := value }
  | .color .text value => { s with text := value }
  | .color .textField value => { s with textField := value }
  | .color .warning value => { s with warning := value }
  | .color .error value => { s with error := value }
  | .color .diagBackground value => { s with diagBackground := value }
  | .color .diagText value => { s with diagText := value }
  | .flag .diagnosticMode value => { s with diagnosticMode := value }
  | .flag .moveEnabled value => { s with moveEnabled := value }
  | .flag .fullscreenEnabled value => { s with fullscreenEnabled := value }
  | .flag .gesturesEnabled value => { s with gesturesEnabled := value }
  | .flag .clearButtonEnabled value => { s with clearButtonEnabled := value }
  | .flag .liveEnvironment value => { s with liveEnvironment := value }
  | .length .width value => { s with width := value }
  | .length .height value => { s with height := value }
  | .position value => { s with position := value }

/-- All settings, in the order in which they are written down. -/
def toList (s : Settings) : List Setting :=
  [.color .background s.background, .color .text s.text, .color .textField s.textField, .color .warning s.warning,
    .color .error s.error, .color .diagBackground s.diagBackground, .color .diagText s.diagText,
    .flag .diagnosticMode s.diagnosticMode, .length .width s.width, .length .height s.height, .position s.position,
    .flag .moveEnabled s.moveEnabled, .flag .fullscreenEnabled s.fullscreenEnabled,
    .flag .gesturesEnabled s.gesturesEnabled, .flag .clearButtonEnabled s.clearButtonEnabled,
    .flag .liveEnvironment s.liveEnvironment]

/-- The settings with some of them changed, one after the other. -/
def setAll (s : Settings) (list : List Setting) : Settings :=
  list.foldl set s

/-- The settings in a list, and the defaults of those that are not in it. -/
def ofList (list : List Setting) : Settings :=
  setAll {} list

/-- Every setting back to its default, but for the live environment. -/
def reset (s : Settings) : Settings :=
  { liveEnvironment := s.liveEnvironment }

/-- The settings with the panel pinned to a rectangle. -/
def pin (s : Settings) (corner size : Point) : Settings :=
  { s with position := some corner, width := some size.x, height := some size.y }

/-- The background that is drawn. -/
def drawnBackground (s : Settings) : Color :=
  if s.diagnosticMode then s.diagBackground else s.background

/-- The color of text that is drawn. -/
def drawnText (s : Settings) : Color :=
  if s.diagnosticMode then s.diagText else s.text

/-- Whether a length or the position of the panel is fixed. -/
def hasFixedLayout (s : Settings) : Bool :=
  s.width.isSome || s.height.isSome || s.position.isSome

/-- All settings of a console make its settings, whatever they were before. -/
theorem setAll_toList (s t : Settings) : t.setAll s.toList = s := by
  simp only [setAll, toList, List.foldl_cons, List.foldl_nil, set]

theorem ofList_toList (s : Settings) : ofList s.toList = s :=
  setAll_toList s {}

@[simp]
theorem liveEnvironment_reset (s : Settings) : s.reset.liveEnvironment = s.liveEnvironment := rfl

@[simp]
theorem reset_reset (s : Settings) : s.reset.reset = s.reset := rfl

end Settings

end DebugConsole
