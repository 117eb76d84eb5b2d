import DebugConsole.Notation.Reader
import DebugConsole.Text.Quoted

/-!
# What is wrong with a text, and where

A stop is shown with the lines and columns between which the last step was taken.
-/

namespace DebugConsole

namespace Notation

/-- A place in a text, by the number of its line and of the character in the line. -/
structure Position where
  line : Nat
  column : Nat
deriving DecidableEq, Repr

namespace Position

/-- The place behind some characters of a text. -/
def behind (cs : List Char) : Position :=
  ⟨1 + cs.count '\n', 1 + (cs.reverse.takeWhile (· != '\n')).length⟩

def text (p : Position) : String :=
  s!"{p.line}:{p.column}"

end Position

/-- A name between backticks, marked if it is not a plain name. -/
def tick (name : String) : String :=
  let plain := name.toList.head?.any Text.isIdentifierStart && name.toList.all Text.isIdentifierPart
  String.singleton '\x60' ++ (if plain then name else "r#" ++ name) ++ String.singleton '\x60'

/-- A piece of text between backticks. -/
def tickText (piece : String) : String :=
  String.singleton '\x60' ++ piece ++ String.singleton '\x60'

/-- The names that could have stood in a place. -/
def choice (names : List String) : String :=
  match names with
  | [] => "there are no variants"
  | [a] => "expected " ++ tick a ++ " instead"
  | [a, b] => "expected either " ++ tick a ++ " or " ++ tick b ++ " instead"
  | names => "expected one of " ++ String.intercalate ", " (names.map tick) ++ " instead"

/-- The fault in words. -/
def Fault.message : Fault → String
  | .unexpectedEnd => "Unexpected end of RON"
  | .unexpectedCharacter c => s!"Unexpected char '{c}'"
  | .expected what => "Expected " ++ what
  | .expectedRecord name => "Expected opening " ++ tickText "(" ++ " for struct " ++ tick name
  | .otherRecord wanted found => "Expected struct " ++ tick wanted ++ " but found " ++ tick found
  | .unnamedRecord name => "Expected the explicit struct name " ++ tick name ++ ", but none was found"
  | .rawName name =>
    "Found invalid std identifier " ++ QuoteStyle.hostLog.quote name ++ ", try the raw identifier " ++
      tickText ("r#" ++ name) ++ " instead"
  | .badEscape why => why
  | .badDigit c base => s!"Invalid digit '{c}' for base {base} integers"
  | .integerTooLarge => "Integer is out of bounds"
  | .floatUnderscore => "Unexpected underscore in float"
  | .leadingUnderscore => "Unexpected leading underscore in a number"
  | .wrongSuffix wanted found => s!"Expected {wanted} but found {found} instead"
  | .unclosedComment => "Unclosed block comment"
  | .unknownExtension name => "No RON extension named " ++ tick name
  | .unknownVariant name kind known =>
    "Unexpected variant named " ++ tick name ++ " in enum " ++ tick kind ++ ", " ++ choice known
  | .missingField name record => "Unexpected missing field named " ++ tick name ++ " in " ++ tick record
  | .duplicateField name record => "Unexpected duplicate field named " ++ tick name ++ " in " ++ tick record
  | .wrongLength wanted found => s!"Expected {wanted} but found {found} instead"
  | .tooDeep =>
    "Exceeded recursion limit, try increasing " ++ tickText "ron::Options::recursion_limit" ++ " and using " ++
      tickText "serde_stacker" ++ " to protect against a stack overflow"
  | .trailingCharacters => "Non-whitespace trailing characters"

/-- The message for a stop of a reader of a text. -/
def Stop.message (text : List Char) (stop : Stop) : String :=
  let place (rest : List Char) := (Position.behind (text.take (text.length - rest.length))).text
  let first := place stop.cursor.before
  let last := place stop.cursor.rest
  (if first = last then last else s!"{first}-{last}") ++ ": " ++ stop.fault.message

end Notation

end DebugConsole
