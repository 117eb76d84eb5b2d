import DebugConsole.Command.Registry
import DebugConsole.Console

/-!
# Configurations

A configuration is what a settings file keeps: the settings of a console and the names of its user commands. It is captured from a
console and its registry, and applied to them: settings are replaced and names are added.
-/

namespace DebugConsole

/-- The contents of a settings file. -/
structure Config where
  settings : Settings := {}
  userCommands : List String := []
deriving DecidableEq, Repr

namespace Config

instance : Inhabited Config := ⟨{}⟩

/-- The name of the settings file, unless another one is asked for. -/
def defaultPath : String := "overlay_console.ron"

/-- The configuration of a console and its registry. -/
def capture (c : Console) (r : Registry) : Config :=
  ⟨c.settings, r.names⟩

/-- The console with the settings of a configuration. -/
def applyTo (config : Config) (c : Console) : Console :=
  c.withSettings config.settings

/-- The registry with the names of a configuration added. -/
def addTo (config : Config) (r : Registry) : Outcome Registry Unit :=
  r.registerAll config.userCommands

end Config

end DebugConsole
