import DebugConsole.Notation.Unknown

/-!
# Records

A record has fields in any order, each at most once, and fields that are not known are skipped together with their values. Its name
may be left out. A tuple is written without the names of its parts, and a variant around its only part.
-/

namespace DebugConsole

namespace Notation

namespace Reader

variable {α β : Type}

/-- The name of a record, which may be left out. -/
def recordName (e : Extensions) (expected : String) : Reader Unit := do
  let cs ← rest
  if !cs.head?.any Text.isIdentifierPart then
    if e.namedRecords then fail (.unnamedRecord expected)
  else
    match name? cs with
    | .ok _ => do
      let found ← name
      if found ≠ expected then fail (.otherRecord expected found)
    | .error (.rawName found) =>
      fail (if found = expected then .rawName found else .expectedRecord expected)
    | .error _ => fail (.expectedRecord expected)

/-- The fields of a record up to its closing parenthesis, which stays. The readers for the values of known fields are looked up by
the names of the fields, and each of them may occur once. -/
def fields (e : Extensions) (record : String) (depth : Nat) (known : String → Option (Nat → Reader α)) :
    Reader (List (String × α)) := do
  let (found, _) ← iterate (fun (found, more) => do
    spaces
    if !more || (← peek?) = some ')' then return none
    let field ← deeper depth fun _ => name
    match known field with
    | none => do
      colon
      deeper depth fun depth => skip e depth false
      return some (found, ← comma)
    | some reader => do
      if found.any (·.1 = field) then fail (.duplicateField field record)
      colon
      let value ← deeper depth reader
      return some (found ++ [(field, value)], ← comma)) (([] : List (String × α)), true)
  return found

/-- A record with some contents. It has no name and no parentheses if it is the only part of a variant that is written bare. -/
def record (e : Extensions) (bare : Bool) (name : String) (depth : Nat) (contents : Nat → Reader α) : Reader α := do
  if !bare then
    recordName e name
    spaces
    expect '(' (.expectedRecord name)
  let value ← deeper depth contents
  spaces
  if !bare then closing ")"
  return value

/-- A tuple of two values. -/
def pair (e : Extensions) (bare : Bool) (name : String) (depth : Nat) (item : Reader α) : Reader (α × α) := do
  if !bare then
    recordName e name
    expect '(' (.expectedRecord name)
  let value ← deeper depth fun depth => do
    let part (found : Nat) (more : Bool) : Reader (α × Bool) := do
      spaces
      if !more || (← peek?) = some ')' then
        fail (.wrongLength "a sequence of 2 f32values" (if found = 0 then "zero elements" else "one element"))
      let value ← deeper depth fun _ => item
      return (value, ← comma)
    let (first, more) ← part 0 true
    let (second, _) ← part 1 more
    return (first, second)
  spaces
  if !bare then closing ")"
  return value

/-- A variant with one part, which is one of the known ones. -/
def variant (e : Extensions) (kind : String) (known : List (String × β)) (depth : Nat) (contents : β → Bool → Nat → Reader α) :
    Reader α := do
  spaces
  let found ← deeper depth fun _ => name
  match known.lookup found with
  | none => fail (.unknownVariant found kind (known.map (·.1)))
  | some which => do
    spaces
    expect '(' (.expected "opening \x60(\x60")
    spaces
    let value ← deeper depth (contents which e.bareVariants)
    let _ ← comma
    closing ")"
    return value

end Reader

end Notation

end DebugConsole
