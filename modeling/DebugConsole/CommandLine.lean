import DebugConsole.HostLog
import DebugConsole.Text.Blank
import DebugConsole.Text.Lowercase
import DebugConsole.Text.Quoted

/-!
# Command lines

A submitted line is lower-cased and cut at every single space; two spaces in a row have an empty token between them. The token that
starts with a dash names the command and all others are its arguments, those before it too. A second token with a dash ends the
line: it and all that follows are left out.
-/

namespace DebugConsole

/-- A command and its arguments. -/
structure Command where
  name : String
  arguments : List String
deriving DecidableEq, Repr

/-- The end of a line that is left out: the name of a second command and the tokens behind it. -/
structure LeftOut where
  name : String
  tokens : List String
deriving DecidableEq, Repr

/-- A line that holds a command. -/
structure CommandLine where
  command : Command
  leftOut : Option LeftOut
deriving DecidableEq, Repr

/-- Why a line holds no command. -/
inductive NotACommand
  /-- The line is blank. -/
  | blank
  /-- No token of the line starts with a dash. -/
  | unmarked
deriving DecidableEq, Repr

namespace NotACommand

def message : NotACommand → String
  | blank => "empty input"
  | unmarked => "no command token"

end NotACommand

namespace CommandLine

/-- The character in front of the name of a command. -/
def marker : Char := '-'

/-- Whether a token names a command. -/
def isMarked (token : List Char) : Bool :=
  token.head? == some marker

/-- The tokens of a line, in lower case. -/
def tokens (line : String) : List (List Char) :=
  (Text.lowercase line).toList.splitOn ' '

/-- The command that tokens hold, if one of them names it. One dash belongs to the mark, further ones to the name. -/
def ofTokens? (tokens : List (List Char)) : Option CommandLine :=
  match tokens.dropWhile (!isMarked ·) with
  | [] => none
  | first :: rest =>
    let arguments := tokens.takeWhile (!isMarked ·) ++ rest.takeWhile (!isMarked ·)
    some {
      command := ⟨String.ofList first.tail, arguments.map String.ofList⟩
      leftOut :=
        match rest.dropWhile (!isMarked ·) with
        | [] => none
        | second :: others => some ⟨String.ofList second.tail, others.map String.ofList⟩ }

/-- The command that a line holds. -/
def read (line : String) : Except NotACommand CommandLine :=
  if Text.isBlank line then .error .blank
  else
    match ofTokens? (tokens line) with
    | none => .error .unmarked
    | some commandLine => .ok commandLine

/-- What reading a line leaves in the log of the host. -/
def trace (line : String) : List LogEntry :=
  if Text.isBlank line then []
  else
    let parts := (tokens line).map String.ofList
    let note := LogSource.lineReader.entry .debug
    note s!"Command parts: {QuoteStyle.hostLog.quoteList parts} ({parts.length} total)" ::
      match (ofTokens? (tokens line)).bind leftOut with
      | none => []
      | some rest => [note s!"Second command '{rest.name}' with {rest.tokens.length} tokens left"]

end CommandLine

/-- The first argument of a command. -/
def Command.argument? (c : Command) : Option String :=
  c.arguments.head?

end DebugConsole
