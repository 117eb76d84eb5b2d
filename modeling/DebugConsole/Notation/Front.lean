import DebugConsole.Notation.Structure

/-!
# The lines at the front of a text

A text may start with lines that name extensions of the notation, or that say something about what follows.
-/

namespace DebugConsole

namespace Notation

namespace Reader

variable {α : Type}

/-- The extension with a name. -/
def withExtension (e : Extensions) : String → Option Extensions
  | "unwrap_newtypes" => some e
  | "implicit_some" => some { e with implicitSome := true }
  | "unwrap_variant_newtypes" => some { e with bareVariants := true }
  | "explicit_struct_names" => some { e with namedRecords := true }
  | _ => none

/-- Takes pieces of text with spaces behind them. The answer is whether all of them were there. -/
def pieces : List (List Char) → Reader Bool
  | [] => return true
  | piece :: others => do
    let here ← consume piece
    if here then spaces
    let there ← pieces others
    return here && there

/-- The names of extensions, one at least. -/
def extensionNames (e : Extensions) : Reader Extensions := do
  let (e, _) ← iterate (fun (e, more) => do
    if !more then return none
    let found ← name
    match withExtension e found with
    | none => fail (.unknownExtension found)
    | some e => do
      let comma ← comma
      let nameFollows := (← peek?).any Text.isIdentifierPart
      if !comma && nameFollows then fail (.expected "comma")
      return some (e, comma && nameFollows)) (e, true)
  return e

/-- A line at the front: the extensions that it names, or a text about the type or the schema of what follows. -/
def frontLine (e : Extensions) : Reader Extensions := do
  let fault := Fault.expected "an \x60#![enable(...)]\x60 attribute"
  if !(← pieces [['#'], ['!'], ['[']]) then fail fault
  if (← wordFor [("type", ()), ("schema", ())]).isSome then
    spaces
    if !(← pieces [['=']]) then fail fault
    let _ ← text
    spaces
    if !(← pieces [[']']]) then fail fault
    return e
  else
    if !(← pieces ["enable".toList, ['(']]) then fail fault
    let e ← extensionNames e
    spaces
    if !(← pieces [[')'], [']']]) then fail (.expected "closing \x60)]\x60 after the enable attribute")
    return e

/-- The lines at the front. -/
def front : Reader Extensions := do
  spaces
  iterate (fun e => do
    if (← peek?) ≠ some '#' then return none
    let e ← frontLine e
    spaces
    return some e) {}

/-- A whole text: the lines at its front, a value, and nothing behind it. -/
def whole (value : Extensions → Reader α) : Reader α := do
  let e ← front
  let value ← value e
  spaces
  if !(← rest).isEmpty then fail .trailingCharacters
  return value

end Reader

end Notation

end DebugConsole
