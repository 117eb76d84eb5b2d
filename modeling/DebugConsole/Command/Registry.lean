import DebugConsole.Command.Stock
import DebugConsole.Text.Lowercase

/-!
# The registry of user commands

The names of the commands that the host handles itself, in the order in which they were registered. Names are stored in lower case
and compared up to the case of A to Z.
-/

namespace DebugConsole

/-- The names of the user commands. -/
structure Registry where
  names : List String := []
deriving DecidableEq, Repr

namespace Registry

instance : Inhabited Registry := ⟨{}⟩

/-- Whether a name is registered. -/
def contains (r : Registry) (name : String) : Bool :=
  r.names.any fun n => Text.sameName n name

/-- Adds a name in lower case, and answers whether it was new. A name that a stock command has is added too, with a warning: the
stock command is the one that will be carried out. -/
def register (name : String) (r : Registry) : Outcome Registry Bool :=
  let name := Text.lowercase name
  if r.contains name then { answer := false, state := r }
  else
    { answer := true
      state := ⟨r.names ++ [name]⟩
      log :=
        if (Stock.ofName? name).isSome then
          [LogSource.dispatcher.entry .warn s!"User command '{name}' is shadowed by a stock command"]
        else [] }

/-- Removes a name, and answers whether it was registered. -/
def unregister (name : String) (r : Registry) : Outcome Registry Bool :=
  { answer := r.contains name
    state := ⟨r.names.filter fun n => !Text.sameName n name⟩ }

/-- Adds names, one after the other. -/
def registerAll (names : List String) (r : Registry) : Outcome Registry Unit :=
  names.foldl
    (fun before name =>
      let after := register name before.state
      { answer := (), state := after.state, log := before.log ++ after.log })
    { answer := (), state := r }

end Registry

end DebugConsole
