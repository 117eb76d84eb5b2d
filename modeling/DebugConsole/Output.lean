/-!
# Output lines

What a console shows is a list of lines, each with a level that decides how it is drawn. A printed line goes to the console, to the
log of the host, or to both.
-/

namespace DebugConsole

/-- The level of an output line. -/
inductive Level
  | debug | info | warn | error
  /-- The echo of a submitted line. -/
  | command
  /-- The confirmation of a stock command. -/
  | result
deriving DecidableEq, Repr

/-- Lines inform unless something else is said. -/
instance : Inhabited Level := ⟨.info⟩

/-- An output line. -/
structure Line where
  level : Level
  text : String
deriving DecidableEq, Repr, Inhabited

/-- Where a printed line goes. -/
inductive Destination
  | console | both | hostOnly
deriving DecidableEq, Repr, Inhabited

/-- The texts of lines, each in a line of its own. -/
def Line.textOf (lines : List Line) : String :=
  String.intercalate "\n" (lines.map Line.text)

end DebugConsole
