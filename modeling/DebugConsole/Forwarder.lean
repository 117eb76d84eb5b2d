import DebugConsole.CommandLine
import DebugConsole.Text.Lowercase

/-!
# The forwarder

The delegate that a session has for user commands. It lists names of its own, besides those in the registry, and keeps the commands
it receives until they are told to the host. While it is detached there is no delegate.
-/

namespace DebugConsole

/-- The delegate of a session. -/
structure Forwarder where
  attached : Bool := true
  /-- The names that it lists, in lower case. -/
  names : List String := []
  /-- The commands that the host has not been told yet. -/
  received : List Command := []
deriving DecidableEq, Repr

namespace Forwarder

instance : Inhabited Forwarder := ⟨{}⟩

/-- Adds a name in lower case, once. -/
def list (name : String) (f : Forwarder) : Forwarder :=
  let name := Text.lowercase name
  if name ∈ f.names then f else { f with names := f.names ++ [name] }

/-- What the dispatcher sees of the forwarder. -/
def delegate (f : Forwarder) : Option (List String) :=
  if f.attached then some f.names else none

/-- The forwarder with more commands received. -/
def receive (commands : List Command) (f : Forwarder) : Forwarder :=
  { f with received := f.received ++ commands }

/-- The commands received, and the forwarder without them. -/
def drain (f : Forwarder) : List Command × Forwarder :=
  (f.received, { f with received := [] })

end Forwarder

end DebugConsole
