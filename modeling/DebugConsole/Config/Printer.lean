import DebugConsole.Config.Basic
import DebugConsole.Number.Shortest
import DebugConsole.Text.Quoted

/-!
# Writing a configuration

The text of a settings file. Records and lists have one line for each part, indented by four columns for each level, with a comma
behind every part. A color is a variant around a record, named for its space; a point is written in one line.
-/

namespace DebugConsole

namespace Config

/-- The columns in front of the lines of a level. -/
def indent (level : Nat) : List Char :=
  List.replicate (4 * level) ' '

/-- A line for one part of a record or a list. -/
def partLine (level : Nat) (part : List Char) : List Char :=
  indent level ++ part ++ [',', '\n']

/-- A field of a record. -/
def field (name : String) (value : List Char) : List Char :=
  name.toList ++ ':' :: ' ' :: value

/-- A record whose parts are on a level of their own. -/
def record (level : Nat) (parts : List (List Char)) : List Char :=
  '(' :: '\n' :: parts.flatMap (partLine level) ++ indent (level - 1) ++ [')']

/-- A list whose parts are on a level of their own. -/
def list (level : Nat) (parts : List (List Char)) : List Char :=
  if parts = [] then ['[', ']']
  else '[' :: '\n' :: parts.flatMap (partLine level) ++ indent (level - 1) ++ [']']

def number (x : Single) : List Char :=
  NumeralStyle.settingsFile.numeral x

def bool (b : Bool) : List Char :=
  if b then "true".toList else "false".toList

def color (level : Nat) (c : Color) : List Char :=
  c.space.name.toList ++ '(' :: record level (c.components.map fun (name, value) => field name (number value)) ++ [')']

def point (p : Point) : List Char :=
  '(' :: number p.x ++ ',' :: ' ' :: number p.y ++ [')']

/-- A value that may be missing. -/
def optional {α : Type} (write : α → List Char) : Option α → List Char
  | none => "None".toList
  | some value => "Some(".toList ++ write value ++ [')']

/-- The value of a setting. -/
def value : Setting → List Char
  | .color _ c => color 3 c
  | .flag _ b => bool b
  | .length _ x => optional number x
  | .position p => optional point p

/-- The characters of a settings file. -/
def characters (config : Config) : List Char :=
  record 1 [
    field "settings" (record 2 (config.settings.toList.map fun s => field s.name (value s))),
    field "user_commands"
      (list 2 (config.userCommands.map fun name => (QuoteStyle.settingsFile.quote name).toList))]

/-- The text of a settings file. -/
def print (config : Config) : String :=
  String.ofList config.characters

end Config

end DebugConsole
