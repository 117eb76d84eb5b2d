import DebugConsole.Notation.Lexeme

/-!
# Lists and optional values

The parts of the settings notation that hold others of one kind, and what a text may allow itself. Everything may be nested, down to
a fixed depth.
-/

namespace DebugConsole

namespace Notation

/-- What a text may allow itself in the lines at its front. -/
structure Extensions where
  /-- A value may stand for an optional one. -/
  implicitSome : Bool := false
  /-- The only part of a variant is written without parentheses of its own. -/
  bareVariants : Bool := false
  /-- Records have to be named. -/
  namedRecords : Bool := false
deriving DecidableEq, Repr

namespace Reader

variable {α : Type}

/-- One level further in. Each level leaves less of the depth. -/
def deeper (depth : Nat) (inner : Nat → Reader α) : Reader α :=
  match depth with
  | 0 => fail .tooDeep
  | depth + 1 => inner depth

/-- Items with commas between and perhaps behind them, up to a closing character, which stays. -/
def items (close : Char) (item : Reader α) : Reader (List α) := do
  let (found, _) ← iterate (fun (found, more) => do
    spaces
    if !more || (← peek?) = some close then return none
    let value ← item
    return some (found ++ [value], ← comma)) ([], true)
  spaces
  return found

/-- A list. -/
def list (depth : Nat) (item : Nat → Reader α) : Reader (List α) := do
  expect '[' (.expected "opening \x60[\x60")
  let found ← deeper depth fun depth => items ']' (deeper depth item)
  expect ']' (.expected "closing \x60]\x60")
  return found

/-- The closing parenthesis of a record, a tuple or a variant. -/
def closing (fault : String) : Reader Unit :=
  expect ')' (.expected ("closing \x60" ++ fault ++ "\x60"))

/-- What stands between a name and its value. -/
def colon : Reader Unit := do
  spaces
  expect ':' (.expected "colon")
  spaces

/-- A value that may be missing. -/
def optionalWith (e : Extensions) (contents : Bool → Reader α) : Reader (Option α) := do
  if ← consumeWord "None" then return none
  let opened ←
    if ← consumeWord "Some" then do
      spaces
      consume ['(']
    else pure false
  if opened then
    spaces
    let value ← contents e.bareVariants
    let _ ← comma
    closing ")"
    return some value
  else if e.implicitSome then
    return some (← contents false)
  else fail (.expected "option")

/-- A value that may be missing, with one level for what is inside of it. -/
def optional (e : Extensions) (depth : Nat) (contents : Bool → Nat → Reader α) : Reader (Option α) :=
  optionalWith e fun bare => deeper depth (contents bare)

end Reader

end Notation

end DebugConsole
