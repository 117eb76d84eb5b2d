import DebugConsole.Config.Printer
import DebugConsole.Config.Reader
import DebugConsole.Directory

/-!
# Settings files

Configurations are loaded from files and saved to them. A file that cannot be used is about its path and a reason.
-/

namespace DebugConsole

namespace Config

/-- Why a settings file cannot be used. -/
inductive Failure
  /-- The file cannot be read or written. -/
  | file (failure : Directory.Failure)
  /-- The text in the file is no configuration. -/
  | syntaxError (path why : String)
deriving DecidableEq, Repr

def Failure.message : Failure → String
  | file failure => s!"IO error for '{failure.path}': {failure.error.message}"
  | syntaxError path why => s!"Parse error for '{path}': {why}"

/-- The configuration in a file. -/
def load (d : Directory) (path : String) : Except Failure Config :=
  match d.read path with
  | .error e => .error (.file ⟨path, e⟩)
  | .ok text => (parse text).mapError (.syntaxError path)

/-- The configuration in a file, the default one if the file cannot be used. -/
def loadOrDefault (d : Directory) (path : String) : Config :=
  match load d path with
  | .ok config => config
  | .error _ => {}

/-- Writes a configuration to a file. -/
def save (config : Config) (d : Directory) (path : String) : Except Failure Unit × Directory :=
  let (saved, d) := d.save path config.print
  (saved.mapError .file, d)

end Config

end DebugConsole
