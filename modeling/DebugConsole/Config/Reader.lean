import DebugConsole.Config.Basic
import DebugConsole.Notation.Front
import DebugConsole.Notation.Message
import DebugConsole.Notation.Record

/-!
# Reading a configuration

The reader for settings files. Both parts of a configuration and each of the settings may be left out, in which case they have their
defaults, and they may come in any order. A color is in one of the known spaces and needs all of its four components.
-/

namespace DebugConsole

namespace Config

open Notation (Reader Extensions)

/-- The component with a name among those that were found, which must not be missing. -/
def foundComponent (space : ColorSpace) (found : List (String × Single)) (name : String) : Reader Single :=
  match found.lookup name with
  | some value => return value
  | none => Reader.fail (.missingField name space.name)

/-- The color with the components that were found. -/
def colorOf (space : ColorSpace) (found : List (String × Single)) : Reader Color := do
  let (first, second, third) := space.coordinates
  return ⟨space, ← foundComponent space found first, ← foundComponent space found second, ← foundComponent space found third,
    ← foundComponent space found "alpha"⟩

/-- The reader for the component of a color by its name. -/
def componentReader? (space : ColorSpace) (name : String) : Option (Nat → Reader Single) :=
  if name ∈ space.components then some fun _ => Reader.single else none

/-- Reads a color in any space. -/
def readColor (e : Extensions) (depth : Nat) : Reader Color :=
  Reader.variant e "Color" ColorSpace.named depth fun space bare depth =>
    Reader.record e bare space.name depth fun depth => do
      colorOf space (← Reader.fields e space.name depth (componentReader? space))

/-- Reads a point. -/
def readPoint (e : Extensions) (bare : Bool) (depth : Nat) : Reader Point := do
  let (x, y) ← Reader.pair e bare "Vec2" depth Reader.single
  return ⟨x, y⟩

/-- The reader for the value of the setting with a name. -/
def settingReader? (e : Extensions) (name : String) : Option (Nat → Reader Setting) :=
  if let some slot := ColorSlot.all.find? (·.name == name) then
    some fun depth => return .color slot (← readColor e depth)
  else if let some flag := Flag.all.find? (·.name == name) then
    some fun _ => return .flag flag (← Reader.bool)
  else if let some side := Side.all.find? (·.name == name) then
    some fun depth => return .length side (← Reader.optional e depth fun _ _ => Reader.single)
  else if name = "position" then
    some fun depth => return .position (← Reader.optional e depth (readPoint e))
  else none

/-- Reads settings. -/
def readSettings (e : Extensions) (depth : Nat) : Reader Settings :=
  Reader.record e false "ConsoleSettings" depth fun depth => do
    let found ← Reader.fields e "ConsoleSettings" depth (settingReader? e)
    return Settings.ofList (found.map (·.2))

/-- One part of a configuration. -/
inductive Part
  | settings (value : Settings)
  | userCommands (names : List String)

/-- The configuration with one of its parts replaced. -/
def withPart (config : Config) : Part → Config
  | .settings value => { config with settings := value }
  | .userCommands names => { config with userCommands := names }

/-- The reader for the part with a name. -/
def partReader? (e : Extensions) (name : String) : Option (Nat → Reader Part) :=
  if name = "settings" then some fun depth => return .settings (← readSettings e depth)
  else if name = "user_commands" then
    some fun depth => return .userCommands (← Reader.list depth fun _ => Reader.text)
  else none

/-- How deep values may be nested in a settings file. -/
def maxDepth : Nat := 128

/-- Reads a configuration. -/
def reader (e : Extensions) : Reader Config :=
  Reader.record e false "ConsoleConfigFile" maxDepth fun depth => do
    let found ← Reader.fields e "ConsoleConfigFile" depth (partReader? e)
    return (found.map (·.2)).foldl withPart {}

/-- The configuration that a text holds, or what is wrong with the text. -/
def parse (text : String) : Except String Config :=
  match Reader.whole reader (.start text.toList) with
  | .ok (config, _) => .ok config
  | .error stop => .error (stop.message text.toList)

end Config

end DebugConsole
