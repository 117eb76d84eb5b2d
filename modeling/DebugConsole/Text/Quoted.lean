import DebugConsole.Text.Printable

/-!
# Quoted texts

A text between double quotes, as the settings file and the host log show it. Quotes, backslashes, line ends and tabs have short
escapes; any other character that could not be told apart in print is written by its code point. The two places differ in one
decision only, kept in `QuoteStyle`.
-/

namespace DebugConsole

/-- Which characters a quoted text escapes besides those that every one does. -/
structure QuoteStyle where
  /-- A single quote is written with a backslash. -/
  escapesSingleQuote : Bool

namespace QuoteStyle

/-- In the settings file, where a character may stand between single quotes, both quotes are escaped. -/
def settingsFile : QuoteStyle := ⟨true⟩

/-- In the host log only the double quote is escaped. -/
def hostLog : QuoteStyle := ⟨false⟩

/-- The escape of a character by its code point, in hexadecimal digits between braces. -/
def codePoint (c : Char) : List Char :=
  '\\' :: 'u' :: '{' :: Nat.toDigits 16 c.toNat ++ ['}']

/-- A character as it stands in a quoted text. -/
def escape (style : QuoteStyle) (c : Char) : List Char :=
  if c = '\x00' then ['\\', '0']
  else if c = '\t' then ['\\', 't']
  else if c = '\r' then ['\\', 'r']
  else if c = '\n' then ['\\', 'n']
  else if c = '\\' ∨ c = '"' ∨ (c = '\'' ∧ style.escapesSingleQuote = true) then ['\\', c]
  else if Text.isJoined c || !Text.isPrintable c then codePoint c
  else [c]

/-- The quoted text. -/
def quote (style : QuoteStyle) (s : String) : String :=
  String.ofList ('"' :: s.toList.flatMap style.escape ++ ['"'])

/-- Quoted texts between square brackets, separated by commas. -/
def quoteList (style : QuoteStyle) (ss : List String) : String :=
  "[" ++ String.intercalate ", " (ss.map style.quote) ++ "]"

end QuoteStyle

end DebugConsole
