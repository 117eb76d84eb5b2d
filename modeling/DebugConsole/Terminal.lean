import DebugConsole.Lifecycle
import DebugConsole.Output
import DebugConsole.Text.Blank

/-!
# The terminal

A host without a screen shows the console on a terminal. What is typed there is cut into lines and submitted; lifecycle events and
output lines are written out, in color if wanted.
-/

namespace DebugConsole

namespace Terminal

/-- What is written to the terminal, and how. -/
structure Style where
  /-- Lines are colored by their level. -/
  colored : Bool := false
  /-- The echo of submitted lines is written. A terminal shows what is typed by itself. -/
  echo : Bool := false
  /-- Lifecycle events are written. -/
  lifecycle : Bool := true
deriving DecidableEq, Repr

/-- The escape sequence of a color or of a return to the usual one, by its number. -/
def escape (code : String) : String :=
  "\x1b[" ++ code ++ "m"

/-- The escape sequence of the color for a level. -/
def color : Level → String
  | .debug => escape "90"
  | .info => escape "0"
  | .warn => escape "33"
  | .error => escape "31"
  | .command => escape "36"
  | .result => escape "32"

/-- A line as it is written. -/
def render (style : Style) (l : Line) : String :=
  if style.colored then color l.level ++ l.text ++ escape "0" else l.text

/-- Whether a line is written. -/
def writes (style : Style) (l : Line) : Bool :=
  style.echo || l.level != .command

/-- What is written for lifecycle events and output lines: the events come first. -/
def write (style : Style) (events : List Lifecycle) (lines : List Line) : String :=
  let shownEvents := if style.lifecycle then events.map fun e => "[console] " ++ e.describe else []
  let shownLines := (lines.filter (writes style)).map (render style)
  String.join ((shownEvents ++ shownLines).map (· ++ "\n"))

/-- Lines that are written later may as well be written at once. -/
theorem write_append (style : Style) (events : List Lifecycle) (lines later : List Line) :
    write style events lines ++ write style [] later = write style events (lines ++ later) := by
  simp only [write, List.map_nil, ite_self, List.nil_append, List.filter_append, List.map_append, String.join_append,
    String.append_assoc]

/-- Where there is nothing to write, nothing is written. -/
@[simp]
theorem write_nothing (style : Style) : write style [] [] = "" := by
  simp only [write, List.map_nil, ite_self, List.filter_nil, List.append_nil]
  rfl

/-- The texts that rows of bytes stand for, up to the first row that is not UTF-8. -/
def decodeRows : List (List UInt8) → List String
  | [] => []
  | row :: rows =>
    match String.fromUTF8? ⟨row.toArray⟩ with
    | none => []
    | some text => text :: decodeRows rows

/-- The lines that are submitted from what is typed: cut at line ends, without the blanks at their ends, blank lines left out. -/
def submitted (typed : List UInt8) : List String :=
  ((decodeRows (typed.splitOn 10)).map Text.trimEnd).filter (!Text.isBlank ·)

end Terminal

end DebugConsole
